import RegisterMachine.Text.Numeral

/-! # Log lines

Messages for the user of a command have a level. A filter drops the messages below a threshold, or all
of them while something else owns the terminal. What is left is written one line a message, with the
name of the level in front, and if wanted with the time of day and in colour.
-/

namespace RegisterMachine.Log

inductive Level where
  | info
  | warn
  | error
deriving DecidableEq, Repr

namespace Level

def name : Level → String
  | .info => "INFO"
  | .warn => "WARN"
  | .error => "ERROR"

/-- The place in the order of levels, the mildest first. -/
def rank : Level → Nat
  | .info => 1
  | .warn => 2
  | .error => 3

instance : LE Level := ⟨fun a b => a.rank ≤ b.rank⟩

instance : LT Level := ⟨fun a b => a.rank < b.rank⟩

instance (a b : Level) : Decidable (a ≤ b) := inferInstanceAs (Decidable (a.rank ≤ b.rank))

instance (a b : Level) : Decidable (a < b) := inferInstanceAs (Decidable (a.rank < b.rank))

end Level

/-! ## What is written -/

structure Filter where
  /-- The mildest level that is written. -/
  threshold : Level := .info
  /-- Nothing at all is written while this is set. -/
  muted : Bool := false
deriving DecidableEq, Repr

namespace Filter

def enabled (filter : Filter) (level : Level) : Bool :=
  !filter.muted && decide (filter.threshold ≤ level)

def setThreshold (filter : Filter) (level : Level) : Filter :=
  { filter with threshold := level }

/-- Mutes or unmutes, and answers how it was before. -/
def setMuted (filter : Filter) (muted : Bool) : Bool × Filter :=
  (filter.muted, { filter with muted })

end Filter

/-! ## Lines -/

structure LineFormat where
  timestamps : Bool := false
  coloured : Bool := false
deriving DecidableEq, Repr

def plain : String := "\x1b[0m"

def Level.paint : Level → String
  | .info => plain
  | .warn => plain ++ "\x1b[1m\x1b[33m"
  | .error => plain ++ "\x1b[1m\x1b[31m"

def line (format : LineFormat) (time : String) (level : Level) (message : String) : String :=
  let stamp := if format.timestamps then time ++ " " else ""
  let text := stamp ++ "[" ++ level.name ++ "] " ++ message ++ "\n"
  if format.coloured then level.paint ++ text ++ plain else text

/-- The time of day, to the millisecond, at a number of milliseconds after a midnight. -/
def timeOfDay (milliseconds : Nat) : String :=
  let seconds := milliseconds / 1000
  let field (width n : Nat) := Text.padLeft width '0' (Text.decimal n)
  field 2 (seconds / 3600 % 24) ++ ":" ++ field 2 (seconds / 60 % 60) ++ ":" ++
    field 2 (seconds % 60) ++ "." ++ field 3 (milliseconds % 1000)

/-- Whether a terminal of the given kind is sent colours, unless it was asked to do without. -/
def wantsColour (terminal : Option String) (refused : Bool) : Bool :=
  match terminal with
  | none => false
  | some kind => kind != "dumb" && !refused

end RegisterMachine.Log

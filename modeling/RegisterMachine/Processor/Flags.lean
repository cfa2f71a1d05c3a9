import RegisterMachine.Text.Numeral

/-! # Status flags

Sixteen status bits, of which six have names. Only `running` has a meaning to the machine itself; the
others are kept for programs and hosts and never change on their own.
-/

namespace RegisterMachine

structure Flags where
  /-- All sixteen bits, named or not. -/
  bits : UInt16
deriving DecidableEq, Repr

namespace Flags

/-! ## Named bits -/

/-- The machine executes instructions while this bit is set. -/
def running : UInt16 := 0x0001
/-- Reserved for a carry out of an addition. -/
def carry : UInt16 := 0x0002
/-- Reserved for a zero result. -/
def zero : UInt16 := 0x0004
/-- Reserved for a negative result. -/
def negative : UInt16 := 0x0008
/-- Reserved for a signed overflow. -/
def overflow : UInt16 := 0x0010
/-- Reserved for a pending interrupt. -/
def interrupt : UInt16 := 0x0020

/-- The named bits with their names, lowest bit first. -/
def named : List (UInt16 × String) :=
  [(running, "RUNNING"), (carry, "CARRY"), (zero, "ZERO"), (negative, "NEGATIVE"),
   (overflow, "OVERFLOW"), (interrupt, "INTERRUPT")]

/-! ## Bits and masks -/

def empty : Flags := ⟨0⟩

/-- Whether every bit of the mask is set. -/
def contains (flags : Flags) (mask : UInt16) : Bool :=
  flags.bits &&& mask == mask

def insert (flags : Flags) (mask : UInt16) : Flags :=
  ⟨flags.bits ||| mask⟩

def remove (flags : Flags) (mask : UInt16) : Flags :=
  ⟨flags.bits &&& ~~~mask⟩

def assign (flags : Flags) (mask : UInt16) (on : Bool) : Flags :=
  if on then flags.insert mask else flags.remove mask

def names (flags : Flags) : List String :=
  (named.filter fun (mask, _) => flags.contains mask).map (·.2)

/-- The names joined by bars, or a dash when no named bit is set. -/
def render (flags : Flags) : String :=
  match flags.names with
  | [] => "-"
  | names => "|".intercalate names

end Flags

end RegisterMachine

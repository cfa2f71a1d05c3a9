import RegisterMachine.Log
import RegisterMachine.Text.Utf8

/-! # Reports

What a command says and how it ends. A command speaks in three ways: log messages, which the user can
filter, other text for the user, and output. The first two go to the error channel, in the order in
which they are said. Output has a channel of its own.

A `Stage` is a part of a command that may turn out to be the last.
-/

namespace RegisterMachine.CommandLine

/-! ## Emissions -/

inductive Emission where
  | log (level : Log.Level) (message : String)
  | notice (text : String)
  | output (bytes : List UInt8)
deriving DecidableEq, Repr

def Emission.outputText (text : String) : Emission :=
  .output (Text.Utf8.encode text)

/-! ## Reports -/

structure Report where
  emissions : List Emission
  /-- Zero for success. -/
  exitCode : UInt32
deriving DecidableEq, Repr

structure Logging where
  filter : Log.Filter := {}
  format : Log.LineFormat := {}
deriving DecidableEq, Repr

/-- What an emission adds to the error channel at a time of day. -/
def Emission.errorText (logging : Logging) (time : String) : Emission → String
  | .log level message =>
    if logging.filter.enabled level then Log.line logging.format time level message else ""
  | .notice text => text
  | .output _ => ""

def Emission.outputBytes : Emission → List UInt8
  | .output bytes => bytes
  | _ => []

namespace Report

/-- The text of the error channel, if everything is said at one time of day. -/
def errorText (report : Report) (logging : Logging) (time : String) : String :=
  String.join (report.emissions.map (Emission.errorText logging time))

def outputBytes (report : Report) : List UInt8 :=
  report.emissions.flatMap Emission.outputBytes

end Report

/-! ## Stages -/

/-- A part of a command: what it says, and what it hands on. Without a result the command has failed. -/
structure Stage (α : Type) where
  emissions : List Emission
  result : Option α

namespace Stage

variable {α β : Type}

def fail (message : String) : Stage α where
  emissions := [.log .error message]
  result := none

def say (emissions : List Emission) : Stage Unit where
  emissions := emissions
  result := some ()

def andThen (stage : Stage α) (next : α → Stage β) : Stage β :=
  match stage with
  | ⟨emissions, none⟩ => ⟨emissions, none⟩
  | ⟨emissions, some a⟩ =>
    match next a with
    | ⟨more, result⟩ => ⟨emissions ++ more, result⟩

instance : Monad Stage where
  pure a := ⟨[], some a⟩
  bind := andThen

/-- The report of a command whose last stage hands on the exit code. A command that has failed exits
with code 1. -/
def report (stage : Stage UInt32) : Report where
  emissions := stage.emissions
  exitCode := stage.result.getD 1

end Stage

end RegisterMachine.CommandLine

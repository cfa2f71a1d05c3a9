import RegisterMachine.Instruction.Disassembly
import RegisterMachine.Processor.Fault

/-! # Status messages

What a debugging session last did, in one line for its user.
-/

namespace RegisterMachine.Debugger

open Text

inductive Status where
  | ready
  | reset
  | running
  | executed (pc : Word) (instruction : Instruction)
  | faulted (pc : Word) (fault : Fault)
  | fatal (error : ProgramError)
  /-- A step was asked for after a program error. -/
  | blocked (error : ProgramError)
  /-- A step was asked for while the machine did not run. -/
  | idle (cycles : Nat)
  /-- Continuous execution ended because the machine does not run. -/
  | halted (cycles : Nat)
  | atBreakpoint (pc : Word)
  | breakpointSet (pc : Word)
  | breakpointRemoved (pc : Word)
deriving DecidableEq, Repr

def Status.message : Status → String
  | .ready => "Ready. Press 's' to step, 'r' to run, 'q' to quit."
  | .reset => "Reset. Ready."
  | .running => "Running..."
  | .executed pc instruction =>
    "PC=" ++ listingAddress pc.toNat ++ ": " ++ disassemble instruction.toWord
  | .faulted pc fault => "Fault at PC=" ++ listingAddress pc.toNat ++ ": " ++ fault.message
  | .fatal error => "Fatal: " ++ error.message
  | .blocked error => "Stopped by fatal error: " ++ error.message ++ ". Press 'x' to reset."
  | .idle cycles => "CPU halted after " ++ decimal cycles ++ " cycles"
  | .halted cycles => "Halted after " ++ decimal cycles ++ " cycles"
  | .atBreakpoint pc => "Breakpoint at PC=" ++ decimal pc.toNat
  | .breakpointSet pc => "Set breakpoint at PC=" ++ decimal pc.toNat
  | .breakpointRemoved pc => "Removed breakpoint at PC=" ++ decimal pc.toNat

end RegisterMachine.Debugger

import RegisterMachine.Host.Configuration

/-! # Tasks

What the command can be asked to do: run an image, debug it, list it, or test itself. Options that
describe the machine replace what a configuration file says about it.
-/

namespace RegisterMachine.CommandLine

structure MachineOptions where
  configuration : Option String := none
  memorySize : Option Word := none
  pcRegister : Option Word := none
  spRegister : Option Word := none
  /-- Where the image is loaded, and where it starts. -/
  loadAddress : Option Word := none
deriving DecidableEq, Repr

/-- The configuration in which each given option replaces the value that was there. -/
def MachineOptions.override (options : MachineOptions) (c : Configuration) : Configuration :=
  { c with
    roles :=
      { pc := options.pcRegister.getD c.roles.pc
        sp := options.spRegister.getD c.roles.sp }
    memorySize := options.memorySize.getD c.memorySize
    loadAddress := options.loadAddress.getD c.loadAddress }

structure RunOptions where
  maxCycles : Option Word := none
  trace : Bool := false
  /-- Whether the final state is written as JSON instead of a table. -/
  dumpState : Bool := false
deriving DecidableEq, Repr

inductive Task where
  | introduce
  | run (image : String) (machine : MachineOptions) (options : RunOptions)
  | debug (image : String) (machine : MachineOptions)
  | disassemble (image : String)
  | selfTest
deriving DecidableEq, Repr

structure Invocation where
  quiet : Bool := false
  timestamps : Bool := false
  task : Task
deriving DecidableEq, Repr

inductive Request where
  | version
  | help
  /-- Nothing that the command understands. -/
  | misused
  | perform (invocation : Invocation)
deriving DecidableEq, Repr

end RegisterMachine.CommandLine

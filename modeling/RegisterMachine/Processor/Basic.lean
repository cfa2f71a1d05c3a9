import RegisterMachine.Processor.Fault
import RegisterMachine.Processor.Roles
import RegisterMachine.Processor.Stack

/-! # The processor

The state that belongs to the processor itself: registers and flags, the reserved stack, the choice of
special registers, the fault that last stopped it, and the number of completed instructions. The
effect of an instruction on this state is one of four, described by `Effect`.
-/

namespace RegisterMachine

structure Processor (capacity : Nat) where
  registers : Registers := .cleared
  stack : Stack capacity := .empty
  /-- Which registers are the program counter and the stack pointer. -/
  roles : Roles := .standard
  /-- The fault that last stopped the processor. -/
  fault : Option Fault := none
  /-- The number of instructions completed since the last reset. Nothing sets it: it begins at zero and
  goes up by one, and no machine completes `2 ^ 64` instructions, so it is the value of a 64-bit counter. -/
  cycles : Nat := 0
deriving DecidableEq, Repr

/-- What an instruction does to the processor once it has everything it needs. -/
inductive Effect where
  | advance
  | assign (target : RegisterIndex) (value : Word)
  | jump (target : Word)
  /-- Stop, with the program counter where it is. -/
  | halt
deriving DecidableEq, Repr

namespace Processor

variable {capacity : Nat}

/-! ## Registers and flags -/

def pc (p : Processor capacity) : Word :=
  p.registers.get p.roles.pc

def sp (p : Processor capacity) : Word :=
  p.registers.get p.roles.sp

def setRegister (p : Processor capacity) (i : RegisterIndex) (value : Word) : Processor capacity :=
  { p with registers := p.registers.set i value }

def setPc (p : Processor capacity) (value : Word) : Processor capacity :=
  p.setRegister p.roles.pc value

def setSp (p : Processor capacity) (value : Word) : Processor capacity :=
  p.setRegister p.roles.sp value

def setFlags (p : Processor capacity) (flags : Flags) : Processor capacity :=
  { p with registers := { p.registers with flags := flags } }

def running (p : Processor capacity) : Bool :=
  p.registers.running

def setRunning (p : Processor capacity) (on : Bool) : Processor capacity :=
  { p with registers := p.registers.setRunning on }

/-! ## Stopping and going on -/

/-- Clears registers, flags, stack, fault and count. The special registers stay chosen. -/
def reset (p : Processor capacity) : Processor capacity :=
  { roles := p.roles, stack := p.stack.clear }

def stop (p : Processor capacity) (fault : Fault) : Processor capacity :=
  { p.setRunning false with fault := some fault }

def count (p : Processor capacity) : Processor capacity :=
  { p with cycles := p.cycles + 1 }

/-- Moves the program counter to the next address. The register is read at this moment: an instruction
that wrote it is followed by the instruction after the address written. -/
def advance (p : Processor capacity) : Processor capacity :=
  p.setPc (p.pc + 1)

def complete (p : Processor capacity) : Effect → Processor capacity
  | .advance => p.advance.count
  | .assign target value => (p.setRegister target value).advance.count
  | .jump target => (p.setPc target).count
  | .halt => (p.setRunning false).count

end Processor

end RegisterMachine

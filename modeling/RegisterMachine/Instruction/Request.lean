import RegisterMachine.Instruction.Basic
import RegisterMachine.Processor.Basic

/-! # What an instruction asks for

Executing an instruction has two parts. First the instruction is resolved against the registers: its
register operands are checked, its sources are read, and what remains is a request. Resolving changes
nothing, so whatever goes wrong here leaves no trace. Then the request is served by the machine, which
may involve memory and devices.

Operands are checked in a fixed order, which decides what is reported when several are bad: slot 1
before slot 0 where both are registers of an arithmetic operation or a move, slot 0 before slot 1 in a
branch, and all registers before a zero divisor.
-/

namespace RegisterMachine

/-- What remains to be done for an instruction whose operands are known. -/
inductive Request where
  | finish (effect : Effect)
  | load (target : RegisterIndex) (address : Word)
  | store (address value : Word)
  | transfer (descriptor pointer : Word)
deriving DecidableEq, Repr

def descriptorRegister : RegisterIndex := ⟨3, by decide⟩

def pointerRegister : RegisterIndex := ⟨4, by decide⟩

/-- The register that an operand names; any other number is a fault. -/
def operandRegister (slot : UInt16) : Except Trap RegisterIndex :=
  match RegisterIndex.ofNat? slot.toNat with
  | some i => .ok i
  | none => .error (.fault (.register slot))

namespace Instruction

/-! ## Families of operations -/

/-- Combines register slot 0 with register slot 1 into slot 0. -/
def combine (i : Instruction) (r : Registers) (f : Word → Word → Word) : Except Trap Request := do
  let source ← operandRegister i.b
  let target ← operandRegister i.a
  return .finish (.assign target (f (r.get target) (r.get source)))

/-- Combines register slot 0 with the immediate in slot 1 into slot 0. -/
def combineImmediate (i : Instruction) (r : Registers) (f : Word → Word → Word) :
    Except Trap Request := do
  let target ← operandRegister i.a
  return .finish (.assign target (f (r.get target) i.b.toUInt64))

/-- Divides a register by a divisor, which must not be zero. -/
def divide (target : RegisterIndex) (divisor : Word) (r : Registers) (pc : Word) :
    Except Trap Request :=
  if divisor = 0 then .error (.fatal (.divisionByZero pc))
  else .ok (.finish (.assign target (r.get target / divisor)))

/-- Jumps to the address in slot 2 if the registers in slots 0 and 1 compare as stated. -/
def branch (i : Instruction) (r : Registers) (taken : Word → Word → Bool) :
    Except Trap Request := do
  let left ← operandRegister i.a
  let right ← operandRegister i.b
  if taken (r.get left) (r.get right) then return .finish (.jump i.c.toUInt64)
  else return .finish .advance

/-! ## Resolution -/

def resolve (i : Instruction) (op : Opcode) (r : Registers) (pc : Word) : Except Trap Request :=
  match op with
  | .nop => .ok (.finish .advance)
  | .add => i.combine r (· + ·)
  | .sub => i.combine r (· - ·)
  | .mul => i.combine r (· * ·)
  | .div => do
    let source ← operandRegister i.b
    let target ← operandRegister i.a
    divide target (r.get source) r pc
  | .addi => i.combineImmediate r (· + ·)
  | .subi => i.combineImmediate r (· - ·)
  | .muli => i.combineImmediate r (· * ·)
  | .divi => do
    let target ← operandRegister i.a
    divide target i.b.toUInt64 r pc
  | .mov => i.combine r fun _ source => source
  | .movi => i.combineImmediate r fun _ value => value
  | .load => do
    let target ← operandRegister i.a
    return .load target i.b.toUInt64
  | .store => do
    let source ← operandRegister i.a
    return .store i.b.toUInt64 (r.get source)
  | .beq => i.branch r (· == ·)
  | .bne => i.branch r (· != ·)
  | .blt => i.branch r fun x y => decide (x < y)
  | .bgt => i.branch r fun x y => decide (x > y)
  | .jmp => .ok (.finish (.jump i.a.toUInt64))
  | .jmpr => do
    let source ← operandRegister i.a
    return .finish (.jump (r.get source))
  | .halt => .ok (.finish .halt)
  | .syscall => .ok (.transfer (r.get descriptorRegister) (r.get pointerRegister))

def request (i : Instruction) (r : Registers) (pc : Word) : Except Trap Request :=
  match i.opcode? with
  | some op => i.resolve op r pc
  | none => .error (.fatal (.unknownOpcode i.code pc))

end Instruction

end RegisterMachine

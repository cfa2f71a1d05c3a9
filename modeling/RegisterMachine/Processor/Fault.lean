import RegisterMachine.Memory.Basic
import RegisterMachine.Device.Bus

/-! # Faults and program errors

A cycle can go wrong in two ways. A fault comes from outside the program's own logic: a bad address, a
missing or failing device, an operand that names no register. It stops the machine and is kept for
inspection. A program error means that the program itself makes no sense at this point: an unknown
operation or a division by zero. It is reported to the host, and nothing changes.
-/

namespace RegisterMachine

inductive Fault where
  | memory (error : MemoryError)
  | device (error : DeviceError)
  | register (index : UInt16)
deriving DecidableEq, Repr

def Fault.message : Fault → String
  | .memory error => "memory fault: " ++ error.message
  | .device error => "I/O fault: " ++ error.message
  | .register index => "register index " ++ Text.decimal index.toNat ++ " out of range"

/-- Why an instruction cannot be executed at all. -/
inductive ProgramError where
  | unknownOpcode (code : UInt16) (pc : Word)
  | divisionByZero (pc : Word)
deriving DecidableEq, Repr

def ProgramError.message : ProgramError → String
  | .unknownOpcode code pc =>
    "unknown opcode " ++ Text.hexPadded 4 code.toNat ++ " at pc=" ++ Text.hex pc.toNat
  | .divisionByZero pc => "division by zero at pc=" ++ Text.hex pc.toNat

/-- What can end a cycle early. -/
inductive Trap where
  | fault (fault : Fault)
  | fatal (error : ProgramError)
deriving DecidableEq, Repr

end RegisterMachine

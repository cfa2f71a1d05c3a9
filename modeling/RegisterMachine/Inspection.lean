import RegisterMachine.Device.Table
import RegisterMachine.Instruction.Basic
import RegisterMachine.Machine.Basic
import RegisterMachine.Text.Quoted

/-! # Inspection

One-line descriptions of values for developers. A record is its name with its fields in braces, a
variant with one value is its name with the value in parentheses, a list is its items in brackets.
-/

namespace RegisterMachine.Inspection

open Text

/-! ## Forms -/

def record (name : String) (fields : List (String × String)) : String :=
  name ++ " \x7b " ++ ", ".intercalate (fields.map fun (field, value) => field ++ ": " ++ value) ++
    " \x7d"

def variant (name value : String) : String :=
  name ++ "(" ++ value ++ ")"

def list (items : List String) : String :=
  "[" ++ ", ".intercalate items ++ "]"

def bool (b : Bool) : String :=
  if b then "true" else "false"

def words (values : List Word) : String :=
  list (values.map fun w => decimal w.toNat)

/-! ## Values -/

def instruction (i : Instruction) : String :=
  record "InstructionWord"
    [("opcode", decimal i.code.toNat), ("args", list (i.slots.map fun s => decimal s.toNat))]

def flags (f : Flags) : String :=
  variant "Flags" (hexPadded 4 f.bits.toNat ++ " " ++ f.render)

def registers (r : Registers) : String :=
  record "Registers" [("file", words r.toList), ("flags", flags r.flags)]

def roles (r : Roles) : String :=
  record "CpuConfig" [("pc_register", decimal r.pc.val), ("sp_register", decimal r.sp.val)]

def stack {capacity : Nat} (s : Stack capacity) : String :=
  record "Stack" [("len", decimal s.size), ("capacity", decimal capacity)]

/-- Memory, by the number of its cells that are not zero and of all its cells. -/
def memory (m : Memory) : String :=
  record "FlatMemory"
    [("non_zero_cells", decimal (m.toList.countP (· != 0))), ("total_cells", decimal m.size)]

def deviceTable {α : Type} (t : DeviceTable α) : String :=
  record "DeviceTable" [("descriptors", words t.descriptors)]

def direction : Direction → String
  | .input => "IoFunction::Read"
  | .output => "IoFunction::Write"

/-! ## Errors -/

def memoryError : MemoryError → String
  | .outOfBounds address => record "OutOfBounds" [("address", decimal address.toNat)]
  | .notInstalled => "NotInstalled"
  | .programTooLarge size available =>
    record "ProgramTooLarge" [("size", decimal size), ("available", decimal available)]

def deviceError : DeviceError → String
  | .noDevice descriptor =>
    record "FunctionDoesntExist" [("descriptor", decimal descriptor.toNat)]
  | .readFailed reason => variant "ReadAccess" (quote reason)
  | .writeFailed reason => variant "WriteAccess" (quote reason)

def fault : Fault → String
  | .memory e => variant "Memory" (memoryError e)
  | .device e => variant "Io" (deviceError e)
  | .register index => record "InvalidRegister" [("index", decimal index.toNat)]

/-! ## The processor -/

def option {α : Type} (inspect : α → String) : Option α → String
  | none => "None"
  | some a => variant "Some" (inspect a)

def machine {capacity : Nat} {μ δ : Type} (m : Machine capacity μ δ) : String :=
  record "Cpu"
    [("regs", registers m.processor.registers), ("config", roles m.processor.roles),
     ("fault", option fault m.processor.fault), ("cycles", decimal m.processor.cycles),
     ("memory", bool m.memoryInstalled), ("io", bool m.devicesInstalled)]

end RegisterMachine.Inspection

import RegisterMachine.Json.Printer
import RegisterMachine.Processor.Basic

/-! # Snapshots

A copy of the processor's state for dumps and front ends, with the readings that hosts ask for most
spelled out beside the raw registers. It is written as a JSON record.
-/

namespace RegisterMachine

structure Snapshot where
  registers : List Word
  flags : Flags
  pc : Word
  sp : Word
  running : Bool
  cycles : Nat
  stackDepth : Nat
  /-- The text of the fault that last stopped the processor. -/
  fault : Option String
deriving DecidableEq, Repr

def Processor.snapshot {capacity : Nat} (p : Processor capacity) : Snapshot where
  registers := p.registers.toList
  flags := p.registers.flags
  pc := p.pc
  sp := p.sp
  running := p.running
  cycles := p.cycles
  stackDepth := p.stack.size
  fault := p.fault.map Fault.message

def Snapshot.toJson (s : Snapshot) : Json :=
  .ofFields
    [("registers", .array (s.registers.map fun word => .ofNat word.toNat)),
     ("flags", .ofNat s.flags.bits.toNat),
     ("flag_names", .array (s.flags.names.map Json.ofText)),
     ("pc", .ofNat s.pc.toNat),
     ("sp", .ofNat s.sp.toNat),
     ("running", .bool s.running),
     ("cycles", .ofNat s.cycles),
     ("stack_depth", .ofNat s.stackDepth),
     ("fault", Json.ofOption Json.ofText s.fault)]

end RegisterMachine

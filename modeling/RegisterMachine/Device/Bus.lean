import RegisterMachine.Processor.Registers

/-! # The device bus

A program reaches devices by number, its descriptor. The host decides which descriptors exist and in
which direction each of them moves bytes. A device transfer first resolves a descriptor and then moves
single bytes.
-/

namespace RegisterMachine

inductive DeviceError where
  | noDevice (descriptor : Word)
  | readFailed (reason : String)
  | writeFailed (reason : String)
deriving DecidableEq, Repr

def DeviceError.message : DeviceError → String
  | .noDevice descriptor => "no I/O function for descriptor " ++ Text.decimal descriptor.toNat
  | .readFailed reason => "I/O read access error: " ++ reason
  | .writeFailed reason => "I/O write access error: " ++ reason

/-- The direction in which a device moves bytes, seen from the program. -/
inductive Direction where
  | input
  | output
deriving DecidableEq, Repr

/-- A set of devices that a processor reaches by descriptor. -/
class DeviceBus (δ : Type) where
  /-- Finds the direction of the device with a descriptor. The registers come with the request. -/
  resolve : δ → Registers → Word → Except DeviceError Direction × δ
  receive : δ → Word → Except DeviceError UInt8 × δ
  send : δ → Word → UInt8 → Except DeviceError Unit × δ

end RegisterMachine

import RegisterMachine.Device.Bus

/-! # The console

Two devices under the usual descriptors: 0 yields bytes from a queue of input, 1 appends bytes to the
collected output. There is no other device.
-/

namespace RegisterMachine

structure Console where
  /-- The bytes not yet read, the next one first. -/
  input : List UInt8 := []
  /-- The bytes written and not yet taken, the oldest first. -/
  output : Array UInt8 := #[]
  atEnd : String := "input exhausted"
deriving DecidableEq, Repr

namespace Console

def inputDescriptor : Word := 0

def outputDescriptor : Word := 1

/-! ## The host -/

def pushInput (c : Console) (bytes : List UInt8) : Console :=
  { c with input := c.input ++ bytes }

def pending (c : Console) : Nat :=
  c.input.length

/-- Hands over the collected output and starts anew. -/
def takeOutput (c : Console) : List UInt8 × Console :=
  (c.output.toList, { c with output := #[] })

def clear (c : Console) : Console :=
  { c with input := [], output := #[] }

/-! ## The program -/

/-- Descriptor 0 is for reading, descriptor 1 for writing. -/
def direction (descriptor : Word) : Except DeviceError Direction :=
  if descriptor = inputDescriptor then .ok .input
  else if descriptor = outputDescriptor then .ok .output
  else .error (.noDevice descriptor)

def readByte (c : Console) : Except DeviceError UInt8 × Console :=
  match c.input with
  | [] => (.error (.readFailed c.atEnd), c)
  | byte :: rest => (.ok byte, { c with input := rest })

def writeByte (c : Console) (byte : UInt8) : Console :=
  { c with output := c.output.push byte }

instance : DeviceBus Console where
  resolve c _ descriptor := (direction descriptor, c)
  receive c _ := c.readByte
  send c _ byte := (.ok (), c.writeByte byte)

end Console

end RegisterMachine

import RegisterMachine.Machine.Basic

/-! # Device transfers

A transfer moves bytes between a device and memory. An input device gives one byte, which is stored as
a word. An output device receives the low bytes of consecutive cells up to, and without, the first
cell whose low byte is zero.

A transfer ends if the string it sends does, which is up to memory and the devices together: memory can
hold a zero byte or have an end, or the device can refuse a byte. `StringsEnd` says that one of them
always happens. It holds of every bounded memory, whatever the devices.
-/

namespace RegisterMachine

variable {capacity : Nat} {μ δ : Type}

/-- Every string that memory serves and a device accepts comes to an end. This is what it takes for every
cycle to end. -/
class StringsEnd (μ δ : Type) [MemoryBus μ] [DeviceBus δ] where
  /-- A bound on the number of bytes that can still be sent from an address. -/
  remaining : Registers → Word → Word → μ → δ → Nat
  /-- Each byte that is sent brings the end nearer. -/
  remaining_lt {view : Registers} {descriptor address word : Word} {memory memory' : μ}
    {devices devices' : δ} (read : MemoryBus.read memory view address = (.ok word, memory'))
    (nonzero : word.toUInt8 ≠ 0)
    (sent : DeviceBus.send devices descriptor word.toUInt8 = (.ok (), devices')) :
    remaining view descriptor (address + 1) memory' devices' <
      remaining view descriptor address memory devices

/-- Below the extent of memory addresses do not wrap around, and at the extent the next read fails. -/
instance [MemoryBus μ] [BoundedMemory μ] [DeviceBus δ] : StringsEnd μ δ where
  remaining _ _ address memory _ := BoundedMemory.extent memory - address.toNat
  remaining_lt {view _ address word memory memory' _ _} read _ _ := by
    have inside : address.toNat < BoundedMemory.extent memory :=
      @BoundedMemory.lt_extent_of_read μ _ _ memory view address word (by rw [read])
    have kept : BoundedMemory.extent memory' = BoundedMemory.extent memory := by
      have extent := BoundedMemory.extent_read memory view address
      rwa [read] at extent
    have bound := BoundedMemory.extent_lt memory
    have next : (address + 1).toNat = address.toNat + 1 := by
      rw [UInt64.toNat_add]
      exact Nat.mod_eq_of_lt (by simpa using (by omega : address.toNat + 1 < UInt64.size))
    omega

/-- Sends the string that starts at an address to an output device. -/
def sendString [MemoryBus μ] [DeviceBus δ] [StringsEnd μ δ] (view : Registers)
    (descriptor address : Word) (memory : μ) (devices : δ) : Except Fault Unit × μ × δ :=
  match _hread : MemoryBus.read memory view address with
  | (.error e, memory') => (.error (.memory e), memory', devices)
  | (.ok word, memory') =>
    if _hzero : word.toUInt8 = 0 then (.ok (), memory', devices)
    else
      match _hsend : DeviceBus.send devices descriptor word.toUInt8 with
      | (.error e, devices) => (.error (.device e), memory', devices)
      | (.ok (), devices) => sendString view descriptor (address + 1) memory' devices
termination_by StringsEnd.remaining view descriptor address memory devices
decreasing_by exact StringsEnd.remaining_lt _hread _hzero _hsend

namespace Machine

def sendFrom [MemoryBus μ] [DeviceBus δ] [StringsEnd μ δ] (m : Machine capacity μ δ)
    (descriptor pointer : Word) : Except Fault Unit × Machine capacity μ δ :=
  match m with
  | ⟨processor, memory, devices, true, devicesInstalled⟩ =>
    match sendString processor.registers descriptor pointer memory devices with
    | (result, memory, devices) =>
      (result, ⟨processor, memory, devices, true, devicesInstalled⟩)
  | m => (.error (.memory .notInstalled), m)

/-- Stores one byte of the input device with a descriptor at a pointer. -/
def receiveInto [MemoryBus μ] [DeviceBus δ] (m : Machine capacity μ δ)
    (descriptor pointer : Word) : Except Fault Unit × Machine capacity μ δ :=
  match m with
  | ⟨processor, memory, devices, memoryInstalled, devicesInstalled⟩ =>
    match DeviceBus.receive devices descriptor with
    | (.error e, devices) =>
      (.error (.device e), ⟨processor, memory, devices, memoryInstalled, devicesInstalled⟩)
    | (.ok byte, devices) =>
      match store ⟨processor, memory, devices, memoryInstalled, devicesInstalled⟩ pointer
        byte.toUInt64 with
      | (.error e, m) => (.error (.memory e), m)
      | (.ok (), m) => (.ok (), m)

/-- Performs a transfer. Without devices installed nothing happens. -/
def transfer [MemoryBus μ] [DeviceBus δ] [StringsEnd μ δ] (m : Machine capacity μ δ)
    (descriptor pointer : Word) : Except Fault Unit × Machine capacity μ δ :=
  match m with
  | ⟨processor, memory, devices, memoryInstalled, true⟩ =>
    match DeviceBus.resolve devices processor.registers descriptor with
    | (.error e, devices) =>
      (.error (.device e), ⟨processor, memory, devices, memoryInstalled, true⟩)
    | (.ok .input, devices) =>
      receiveInto ⟨processor, memory, devices, memoryInstalled, true⟩ descriptor pointer
    | (.ok .output, devices) =>
      sendFrom ⟨processor, memory, devices, memoryInstalled, true⟩ descriptor pointer
  | m => (.ok (), m)

end Machine

end RegisterMachine

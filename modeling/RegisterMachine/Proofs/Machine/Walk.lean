import RegisterMachine.Instruction.Request
import RegisterMachine.Proofs.Machine.DeviceMap

/-! # The rounds of a string walk

`Walk` lists the rounds of the loop that sends a string, one constructor for each way in which a round
can end, and records the bytes sent on the way. A walk with `n` bytes reads `n + 1` cells: each round
but the last one sends a byte and goes on at the next address, which wraps around.

The relation does not rest on any bound: only a loop that ends has a walk. `walk_sendString` says that
the loop of the machine always has one.
-/

namespace RegisterMachine

variable {μ δ : Type} [MemoryBus μ] [DeviceBus δ]

/-- The loop that sends a string comes to an end, with these bytes sent, this result, and this memory and
these devices left. -/
inductive Walk (view : Registers) (descriptor : Word) :
    Word → μ → δ → List UInt8 → Except Fault Unit → μ → δ → Prop where
  -- The cell cannot be read.
  | unread {address : Word} {memory memory' : μ} {devices : δ} {error : MemoryError}
      (read : MemoryBus.read memory view address = (.error error, memory')) :
      Walk view descriptor address memory devices [] (.error (.memory error)) memory' devices
  -- The low byte of the cell is zero, which is the end of the string.
  | terminated {address word : Word} {memory memory' : μ} {devices : δ}
      (read : MemoryBus.read memory view address = (.ok word, memory')) (zero : word.toUInt8 = 0) :
      Walk view descriptor address memory devices [] (.ok ()) memory' devices
  -- The device refuses the byte.
  | refused {address word : Word} {memory memory' : μ} {devices devices' : δ} {error : DeviceError}
      (read : MemoryBus.read memory view address = (.ok word, memory'))
      (nonzero : word.toUInt8 ≠ 0)
      (refused : DeviceBus.send devices descriptor word.toUInt8 = (.error error, devices')) :
      Walk view descriptor address memory devices [] (.error (.device error)) memory' devices'
  | sent {address word : Word} {memory memory' memory'' : μ} {devices devices' devices'' : δ}
      {bytes : List UInt8} {result : Except Fault Unit}
      (read : MemoryBus.read memory view address = (.ok word, memory'))
      (nonzero : word.toUInt8 ≠ 0)
      (sent : DeviceBus.send devices descriptor word.toUInt8 = (.ok (), devices'))
      (rest : Walk view descriptor (address + 1) memory' devices' bytes result memory'' devices'') :
      Walk view descriptor address memory devices (word.toUInt8 :: bytes) result memory'' devices''

/-- The loop always ends. -/
theorem walk_sendString [StringsEnd μ δ] (view : Registers) (descriptor address : Word) (memory : μ)
    (devices : δ) :
    ∃ bytes, Walk view descriptor address memory devices bytes
      (sendString view descriptor address memory devices).1
      (sendString view descriptor address memory devices).2.1
      (sendString view descriptor address memory devices).2.2 := by
  fun_induction sendString view descriptor address memory devices with
  | case1 address memory devices error memory' read => exact ⟨[], .unread read⟩
  | case2 address memory devices word memory' read zero => exact ⟨[], .terminated read zero⟩
  | case3 address memory devices word memory' read nonzero error devices' refused =>
    exact ⟨[], .refused read nonzero refused⟩
  | case4 address memory devices word memory' read nonzero devices' sent inductionHypothesis =>
    obtain ⟨bytes, rest⟩ := inductionHypothesis
    exact ⟨word.toUInt8 :: bytes, .sent read nonzero sent rest⟩

theorem walk_of_sendString [StringsEnd μ δ] {view : Registers} {descriptor address : Word}
    {memory memory' : μ} {devices devices' : δ} {result : Except Fault Unit}
    (walked : sendString view descriptor address memory devices = (result, memory', devices')) :
    ∃ bytes, Walk view descriptor address memory devices bytes result memory' devices' := by
  have walk := walk_sendString view descriptor address memory devices
  rwa [walked] at walk

theorem sendString_of_walk [StringsEnd μ δ] {view : Registers} {descriptor address : Word}
    {memory memory' : μ} {devices devices' : δ} {bytes : List UInt8} {result : Except Fault Unit}
    (walk : Walk view descriptor address memory devices bytes result memory' devices') :
    sendString view descriptor address memory devices = (result, memory', devices') := by
  induction walk with
  | unread read => rw [sendString_eq, read]
  | terminated read zero =>
    rw [sendString_eq, read]
    simp only [zero, if_true]
  | refused read nonzero refused =>
    rw [sendString_eq, read]
    simp only [nonzero, if_false, refused]
  | sent read nonzero sent rest inductionHypothesis =>
    rw [sendString_eq, read]
    simp only [nonzero, if_false, sent, inductionHypothesis]

/-! ## Transfers by their parts -/

namespace Machine

variable {capacity : Nat}

def descriptor {μ δ : Type} (m : Machine capacity μ δ) : Word :=
  m.processor.registers.get descriptorRegister

def pointer {μ δ : Type} (m : Machine capacity μ δ) : Word :=
  m.processor.registers.get pointerRegister

theorem transfer_eq [StringsEnd μ δ] {m : Machine capacity μ δ} (installed : m.devicesInstalled = true)
    (descriptor pointer : Word) :
    m.transfer descriptor pointer =
      match DeviceBus.resolve m.devices m.processor.registers descriptor with
      | (.error error, devices) => (.error (.device error), { m with devices })
      | (.ok .input, devices) => receiveInto { m with devices } descriptor pointer
      | (.ok .output, devices) => sendFrom { m with devices } descriptor pointer := by
  obtain ⟨processor, memory, devices, memoryInstalled, devicesInstalled⟩ := m
  cases installed
  rfl

theorem receiveInto_eq (m : Machine capacity μ δ) (descriptor pointer : Word) :
    m.receiveInto descriptor pointer =
      match DeviceBus.receive m.devices descriptor with
      | (.error error, devices) => (.error (.device error), { m with devices })
      | (.ok byte, devices) =>
        (store { m with devices } pointer byte.toUInt64).map (·.mapError .memory) id := by
  simp only [receiveInto]
  rcases DeviceBus.receive m.devices descriptor with ⟨_ | byte, devices⟩
  · rfl
  · dsimp only
    rcases store { m with devices } pointer byte.toUInt64 with ⟨_ | _, stored⟩ <;> rfl

theorem sendFrom_eq [StringsEnd μ δ] {m : Machine capacity μ δ} (reachable : m.memoryInstalled = true)
    (descriptor pointer : Word) :
    m.sendFrom descriptor pointer =
      match sendString m.processor.registers descriptor pointer m.memory m.devices with
      | (result, memory, devices) => (result, { m with memory, devices }) := by
  obtain ⟨processor, memory, devices, memoryInstalled, devicesInstalled⟩ := m
  cases reachable
  rfl

end Machine

end RegisterMachine

import RegisterMachine.Proofs.Machine.Cycle
import RegisterMachine.Proofs.Machine.Walk

/-! # What no request takes away from devices

A property of devices that a lookup, a byte received and a byte sent keep is kept by a whole cycle
(`DeviceInvariant.step`), whatever the memory is and however the cycle ends. A cycle reaches its devices
in no other way.
-/

namespace RegisterMachine

variable {capacity : Nat} {μ δ : Type}

/-- No request to the devices takes the property away, whether the request fails or not. -/
structure DeviceInvariant [DeviceBus δ] (holds : δ → Prop) : Prop where
  resolve {devices : δ} (before : holds devices) (view : Registers) (descriptor : Word) :
    holds (DeviceBus.resolve devices view descriptor).2
  receive {devices : δ} (before : holds devices) (descriptor : Word) :
    holds (DeviceBus.receive devices descriptor).2
  send {devices : δ} (before : holds devices) (descriptor : Word) (byte : UInt8) :
    holds (DeviceBus.send devices descriptor byte).2

namespace Machine

variable [MemoryBus μ]

/-! ## Accesses to memory do not reach devices -/

theorem devices_load (m : Machine capacity μ δ) (address : Word) :
    (m.load address).2.devices = m.devices := by
  obtain ⟨processor, memory, devices, memoryInstalled, devicesInstalled⟩ := m
  cases memoryInstalled <;> rfl

theorem devices_of_load {m fetched : Machine capacity μ δ} {address : Word}
    {result : Except MemoryError Word} (fetch : m.load address = (result, fetched)) :
    fetched.devices = m.devices := by
  have same := devices_load m address
  rwa [fetch] at same

theorem devices_store (m : Machine capacity μ δ) (address value : Word) :
    (m.store address value).2.devices = m.devices := by
  obtain ⟨processor, memory, devices, memoryInstalled, devicesInstalled⟩ := m
  cases memoryInstalled <;> rfl

end Machine

namespace DeviceInvariant

variable [MemoryBus μ] [DeviceBus δ] {holds : δ → Prop} (kept : DeviceInvariant holds)

include kept

/-! ## Transfers -/

omit [MemoryBus μ] in
theorem of_send {devices devices' : δ} {descriptor : Word} {byte : UInt8}
    {result : Except DeviceError Unit} (before : holds devices)
    (sent : DeviceBus.send devices descriptor byte = (result, devices')) : holds devices' := by
  have after := kept.send before descriptor byte
  rwa [sent] at after

theorem receiveInto {m : Machine capacity μ δ} (before : holds m.devices) (descriptor pointer : Word) :
    holds (m.receiveInto descriptor pointer).2.devices := by
  have after := kept.receive before descriptor
  rw [Machine.receiveInto_eq]
  rcases received : DeviceBus.receive m.devices descriptor with ⟨error | byte, devices⟩
  · rw [received] at after
    exact after
  · rw [received] at after
    have same := Machine.devices_store { m with devices } pointer byte.toUInt64
    exact same ▸ after

theorem walk {view : Registers} {descriptor address : Word} {memory memory' : μ} {devices devices' : δ}
    {bytes : List UInt8} {result : Except Fault Unit} (before : holds devices)
    (walk : Walk view descriptor address memory devices bytes result memory' devices') :
    holds devices' := by
  induction walk with
  | unread read => exact before
  | terminated read zero => exact before
  | refused read nonzero refused => exact kept.of_send before refused
  | sent read nonzero sent rest inductionHypothesis =>
    exact inductionHypothesis (kept.of_send before sent)

variable [StringsEnd μ δ]

theorem sendFrom {m : Machine capacity μ δ} (before : holds m.devices) (descriptor pointer : Word) :
    holds (m.sendFrom descriptor pointer).2.devices := by
  obtain ⟨processor, memory, devices, memoryInstalled, devicesInstalled⟩ := m
  cases memoryInstalled with
  | false => exact before
  | true =>
    obtain ⟨bytes, walk⟩ := walk_sendString processor.registers descriptor pointer memory devices
    exact kept.walk before walk

theorem transfer {m : Machine capacity μ δ} (before : holds m.devices) (descriptor pointer : Word) :
    holds (m.transfer descriptor pointer).2.devices := by
  obtain ⟨processor, memory, devices, memoryInstalled, devicesInstalled⟩ := m
  cases devicesInstalled with
  | false => exact before
  | true =>
    have looked := kept.resolve before processor.registers descriptor
    rw [Machine.transfer_eq rfl]
    rcases resolved : DeviceBus.resolve devices processor.registers descriptor with
      ⟨error | direction, devices'⟩
    · rw [resolved] at looked
      exact looked
    · rw [resolved] at looked
      cases direction with
      | input =>
        exact kept.receiveInto (m := ⟨processor, memory, devices', memoryInstalled, true⟩) looked
          descriptor pointer
      | output =>
        exact kept.sendFrom (m := ⟨processor, memory, devices', memoryInstalled, true⟩) looked
          descriptor pointer

/-! ## Cycles -/

theorem serve {m : Machine capacity μ δ} (before : holds m.devices) (request : Request) :
    holds (m.serve request).2.devices := by
  cases request with
  | finish effect => exact before
  | load target address =>
    have same := Machine.devices_load m address
    simp only [Machine.serve]
    split <;> (rename_i loaded; rw [loaded] at same; exact same ▸ before)
  | store address value =>
    have same := Machine.devices_store m address value
    simp only [Machine.serve]
    split <;> (rename_i stored; rw [stored] at same; exact same ▸ before)
  | transfer descriptor pointer =>
    have after := kept.transfer before descriptor pointer
    simp only [Machine.serve]
    split <;> (rename_i transferred; rw [transferred] at after; exact after)

theorem of_serve {m served : Machine capacity μ δ} {request : Request} {result : Except Fault Effect}
    (before : holds m.devices) (serve : m.serve request = (result, served)) : holds served.devices := by
  have after := kept.serve before request
  rwa [serve] at after

theorem step {m : Machine capacity μ δ} (before : holds m.devices) : holds m.step.2.devices := by
  rcases stepped : m.step with ⟨outcome, m'⟩
  cases Machine.cycle_of_step stepped with
  | idle stopped => exact before
  | unfetched running fetch => exact Machine.devices_of_load fetch ▸ before
  | refused running fetch request => exact Machine.devices_of_load fetch ▸ before
  | misnamed running fetch request => exact Machine.devices_of_load fetch ▸ before
  | unserved running fetch request serve | completed running fetch request serve =>
    have fetched := (Machine.devices_of_load fetch).symm ▸ before
    have after := kept.of_serve fetched serve
    exact after

end DeviceInvariant

end RegisterMachine

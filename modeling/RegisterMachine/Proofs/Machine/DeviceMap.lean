import RegisterMachine.Device.Console
import RegisterMachine.Machine.Step

/-! # Devices behind a map

A map between devices under which every request is answered as before, and leaves the image of what it
left before, is not noticed by a machine: a cycle over the image of the devices is the image of the
cycle (`step_mapDevices`).

The map of interest puts bytes in front of the output that a console has collected
(`deviceMap_behind`). What a program does therefore does not depend on whether its earlier output has
been taken away.
-/

namespace RegisterMachine

variable {capacity : Nat} {μ δ δ' : Type}

/-- Requests cannot tell devices from their image. -/
structure DeviceMap [DeviceBus δ] [DeviceBus δ'] (f : δ → δ') : Prop where
  resolve (devices : δ) (view : Registers) (descriptor : Word) :
    DeviceBus.resolve (f devices) view descriptor =
      (DeviceBus.resolve devices view descriptor).map id f
  receive (devices : δ) (descriptor : Word) :
    DeviceBus.receive (f devices) descriptor = (DeviceBus.receive devices descriptor).map id f
  send (devices : δ) (descriptor : Word) (byte : UInt8) :
    DeviceBus.send (f devices) descriptor byte = (DeviceBus.send devices descriptor byte).map id f

/-! ## Strings -/

/-- The walk along a string by its first cell. -/
theorem sendString_eq [MemoryBus μ] [DeviceBus δ] [StringsEnd μ δ] (view : Registers)
    (descriptor address : Word) (memory : μ) (devices : δ) :
    sendString view descriptor address memory devices =
      match MemoryBus.read memory view address with
      | (.error error, memory) => (.error (.memory error), memory, devices)
      | (.ok word, memory) =>
        if word.toUInt8 = 0 then (.ok (), memory, devices)
        else
          match DeviceBus.send devices descriptor word.toUInt8 with
          | (.error error, devices) => (.error (.device error), memory, devices)
          | (.ok (), devices) => sendString view descriptor (address + 1) memory devices := by
  rw [sendString]
  split
  · rename_i read
    rw [read]
  · rename_i read
    rw [read]
    dsimp only
    split
    · rfl
    · split
      · rename_i refused
        rw [refused]
      · rename_i sent
        rw [sent]

theorem sendString_map [MemoryBus μ] [DeviceBus δ] [DeviceBus δ'] [StringsEnd μ δ] [StringsEnd μ δ']
    {f : δ → δ'} (unnoticed : DeviceMap f) (view : Registers) (descriptor address : Word)
    (memory : μ) (devices : δ) :
    sendString view descriptor address memory (f devices) =
      (sendString view descriptor address memory devices).map id (Prod.map id f) := by
  -- The two walks read the same cells; the induction is on the one over the devices themselves.
  fun_induction sendString view descriptor address memory devices with
  | case1 address memory devices error memory' read =>
    rw [sendString_eq, read]
    rfl
  | case2 address memory devices word memory' read zero =>
    rw [sendString_eq, read]
    simp only [zero, if_true, Prod.map, id]
  | case3 address memory devices word memory' read nonzero error devices' refused =>
    rw [sendString_eq, read]
    simp only [nonzero, if_false, unnoticed.send, refused, Prod.map, id]
  | case4 address memory devices word memory' read nonzero devices' sent inductionHypothesis =>
    rw [sendString_eq, read, ← inductionHypothesis]
    simp only [nonzero, if_false, unnoticed.send, sent, Prod.map, id]

/-! ## Cycles -/

namespace Machine

def mapDevices (f : δ → δ') (m : Machine capacity μ δ) : Machine capacity μ δ' :=
  { m with devices := f m.devices }

theorem processor_mapDevices (f : δ → δ') (m : Machine capacity μ δ) :
    (m.mapDevices f).processor = m.processor := rfl

section Accesses

variable [MemoryBus μ]

theorem load_mapDevices (f : δ → δ') (m : Machine capacity μ δ) (address : Word) :
    (m.mapDevices f).load address = (m.load address).map id (mapDevices f) := by
  obtain ⟨processor, memory, devices, memoryInstalled, devicesInstalled⟩ := m
  cases memoryInstalled <;> rfl

theorem store_mapDevices (f : δ → δ') (m : Machine capacity μ δ) (address value : Word) :
    (m.mapDevices f).store address value = (m.store address value).map id (mapDevices f) := by
  obtain ⟨processor, memory, devices, memoryInstalled, devicesInstalled⟩ := m
  cases memoryInstalled <;> rfl

variable [DeviceBus δ] [DeviceBus δ'] {f : δ → δ'}

theorem receiveInto_mapDevices (unnoticed : DeviceMap f) (m : Machine capacity μ δ)
    (descriptor pointer : Word) :
    (m.mapDevices f).receiveInto descriptor pointer =
      (m.receiveInto descriptor pointer).map id (mapDevices f) := by
  obtain ⟨processor, memory, devices, memoryInstalled, devicesInstalled⟩ := m
  simp only [mapDevices, receiveInto, unnoticed.receive]
  cases DeviceBus.receive devices descriptor with
  | mk answer devices' =>
    cases answer with
    | error error => rfl
    | ok byte =>
      have stored := store_mapDevices f
        ⟨processor, memory, devices', memoryInstalled, devicesInstalled⟩ pointer byte.toUInt64
      simp only [mapDevices] at stored
      simp only [Prod.map, id, stored]
      cases store ⟨processor, memory, devices', memoryInstalled, devicesInstalled⟩ pointer
          byte.toUInt64 with
      | mk answer m => cases answer <;> rfl

end Accesses

variable [MemoryBus μ] [DeviceBus δ] [DeviceBus δ'] [StringsEnd μ δ] [StringsEnd μ δ'] {f : δ → δ'}

theorem sendFrom_mapDevices (unnoticed : DeviceMap f) (m : Machine capacity μ δ)
    (descriptor pointer : Word) :
    (m.mapDevices f).sendFrom descriptor pointer =
      (m.sendFrom descriptor pointer).map id (mapDevices f) := by
  obtain ⟨processor, memory, devices, memoryInstalled, devicesInstalled⟩ := m
  cases memoryInstalled with
  | false => rfl
  | true =>
    simp only [mapDevices, sendFrom, sendString_map unnoticed]
    rfl

theorem transfer_mapDevices (unnoticed : DeviceMap f) (m : Machine capacity μ δ)
    (descriptor pointer : Word) :
    (m.mapDevices f).transfer descriptor pointer =
      (m.transfer descriptor pointer).map id (mapDevices f) := by
  obtain ⟨processor, memory, devices, memoryInstalled, devicesInstalled⟩ := m
  cases devicesInstalled with
  | false => rfl
  | true =>
    simp only [mapDevices, transfer, unnoticed.resolve]
    cases DeviceBus.resolve devices processor.registers descriptor with
    | mk answer devices' =>
      let resolved : Machine capacity μ δ := ⟨processor, memory, devices', memoryInstalled, true⟩
      cases answer with
      | error error => rfl
      | ok direction =>
        cases direction with
        | input => exact receiveInto_mapDevices unnoticed resolved descriptor pointer
        | output => exact sendFrom_mapDevices unnoticed resolved descriptor pointer

theorem serve_mapDevices (unnoticed : DeviceMap f) (m : Machine capacity μ δ) (request : Request) :
    (m.mapDevices f).serve request = (m.serve request).map id (mapDevices f) := by
  cases request with
  | finish effect => rfl
  | load target address =>
    simp only [serve, load_mapDevices]
    cases m.load address with
    | mk answer m => cases answer <;> rfl
  | store address value =>
    simp only [serve, store_mapDevices]
    cases m.store address value with
    | mk answer m => cases answer <;> rfl
  | transfer descriptor pointer =>
    simp only [serve, transfer_mapDevices unnoticed]
    cases m.transfer descriptor pointer with
    | mk answer m => cases answer <;> rfl

theorem execute_mapDevices (unnoticed : DeviceMap f) (m : Machine capacity μ δ) (word : Word) :
    (m.mapDevices f).execute word = (m.execute word).map id (mapDevices f) := by
  simp only [execute, processor_mapDevices, serve_mapDevices unnoticed]
  cases (Instruction.ofWord word).request m.processor.registers m.processor.pc with
  | error trap => cases trap <;> rfl
  | ok demand =>
    dsimp only
    cases m.serve demand with
    | mk answer served => cases answer <;> rfl

/-- A cycle over the image of the devices is the image of the cycle. -/
theorem step_mapDevices (unnoticed : DeviceMap f) (m : Machine capacity μ δ) :
    (m.mapDevices f).step = m.step.map id (mapDevices f) := by
  cases running : m.running with
  | false =>
    have stopped : (m.mapDevices f).running = false := running
    simp [step, running, stopped]
  | true =>
    have running' : (m.mapDevices f).running = true := running
    simp only [step, running, running', if_true, processor_mapDevices, load_mapDevices]
    cases m.load m.processor.pc with
    | mk answer fetched =>
      cases answer with
      | error error => rfl
      | ok word => exact execute_mapDevices unnoticed fetched word

end Machine

/-! ## Earlier output of a console -/

/-- Puts earlier output in front of what a console has collected. -/
def Console.behind (earlier : Array UInt8) (c : Console) : Console :=
  { c with output := earlier ++ c.output }

theorem deviceMap_behind (earlier : Array UInt8) : DeviceMap (Console.behind earlier) where
  resolve _ _ _ := rfl
  receive devices _ := by
    obtain ⟨input, output, atEnd⟩ := devices
    cases input <;> rfl
  send devices _ byte := by
    simp [DeviceBus.send, Console.behind, Console.writeByte]

end RegisterMachine

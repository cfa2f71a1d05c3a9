import RegisterMachine.Device.Console
import RegisterMachine.Proofs.Machine.Strings

/-! # Requests to flat memory and a console

What becomes of a request when the memory is flat and the devices are a console. `Transferred` lists
everything that a transfer can do, one constructor for each place at which it can end, and `Served` does
the same for every request; `transferred_transfer` and `served_serve` say that there is nothing else.
-/

namespace RegisterMachine

variable {capacity : Nat}

/-! ## Transfers -/

theorem sendAll_console (descriptor : Word) (bytes : List UInt8) (console : Console) :
    sendAll descriptor bytes console =
      (.ok (), { console with output := console.output ++ bytes.toArray }) := by
  induction bytes generalizing console with
  | nil => simp [sendAll]
  | cons byte bytes inductionHypothesis =>
    show sendAll descriptor bytes (console.writeByte byte) = _
    rw [inductionHypothesis]
    simp [Console.writeByte]

namespace Machine

/-- How a transfer between flat memory and a console can end, and with which machine. -/
inductive Transferred (m : Machine capacity Memory Console) (descriptor pointer : Word) :
    Except Fault Unit → Machine capacity Memory Console → Prop where
  | absent (absent : m.devicesInstalled = false) : Transferred m descriptor pointer (.ok ()) m
  | unresolved (installed : m.devicesInstalled = true) (notInput : descriptor ≠ 0)
      (notOutput : descriptor ≠ 1) :
      Transferred m descriptor pointer (.error (.device (.noDevice descriptor))) m
  | exhausted (installed : m.devicesInstalled = true) (isInput : descriptor = 0)
      (empty : m.devices.input = []) :
      Transferred m descriptor pointer (.error (.device (.readFailed m.devices.atEnd))) m
  -- A byte is taken from the input, but there is no cell for it.
  | misplaced {byte : UInt8} {rest : List UInt8} (installed : m.devicesInstalled = true)
      (isInput : descriptor = 0) (queued : m.devices.input = byte :: rest)
      (outside : m.memory.size ≤ pointer.toNat) :
      Transferred m descriptor pointer (.error (.memory (.outOfBounds pointer)))
        { m with devices := { m.devices with input := rest } }
  | received {byte : UInt8} {rest : List UInt8} (installed : m.devicesInstalled = true)
      (isInput : descriptor = 0) (queued : m.devices.input = byte :: rest)
      (inside : pointer.toNat < m.memory.size) :
      Transferred m descriptor pointer (.ok ())
        { m with
          memory := (m.memory.write pointer byte.toUInt64).2
          devices := { m.devices with input := rest } }
  | sent (installed : m.devicesInstalled = true) (isOutput : descriptor = 1)
      (terminated : m.memory.Terminated pointer.toNat) :
      Transferred m descriptor pointer (.ok ())
        { m with devices :=
          { m.devices with
            output := m.devices.output ++ (m.memory.stringFrom pointer.toNat).toArray } }
  -- The walk leaves memory; what it met before is sent.
  | unterminated (installed : m.devicesInstalled = true) (isOutput : descriptor = 1)
      (endless : ¬ m.memory.Terminated pointer.toNat) :
      Transferred m descriptor pointer
        (.error (.memory (.outOfBounds (m.memory.endOfWalk pointer))))
        { m with devices :=
          { m.devices with
            output := m.devices.output ++ (m.memory.bytesFrom pointer.toNat).toArray } }

theorem transferred_receiveInto {m : Machine capacity Memory Console} (pointer : Word)
    (reachable : m.memoryInstalled = true) (installed : m.devicesInstalled = true) :
    Transferred m 0 pointer (m.receiveInto 0 pointer).1 (m.receiveInto 0 pointer).2 := by
  cases queued : m.devices.input with
  | nil =>
    have failed : m.receiveInto 0 pointer =
        (.error (.device (.readFailed m.devices.atEnd)), m) := by
      simp only [receiveInto, DeviceBus.receive, Console.readByte, queued]
    rw [failed]
    exact .exhausted installed rfl queued
  | cons byte rest =>
    have taken : DeviceBus.receive m.devices 0 = (.ok byte, { m.devices with input := rest }) := by
      simp only [DeviceBus.receive, Console.readByte, queued]
    have stored := store_flat (m := { m with devices := { m.devices with input := rest } })
      reachable pointer byte.toUInt64
    simp only [receiveInto, taken, stored]
    by_cases inside : pointer.toNat < m.memory.size
    · obtain ⟨accepted, _⟩ := Memory.write_inside byte.toUInt64 inside
      simp only [accepted]
      exact .received installed rfl queued inside
    · have outside := Nat.le_of_not_lt inside
      simp only [Memory.write_outside byte.toUInt64 outside]
      exact .misplaced installed rfl queued outside

theorem transferred_sendFrom {m : Machine capacity Memory Console} (pointer : Word)
    (reachable : m.memoryInstalled = true) (installed : m.devicesInstalled = true) :
    Transferred m 1 pointer (m.sendFrom 1 pointer).1 (m.sendFrom 1 pointer).2 := by
  obtain ⟨processor, memory, devices, memoryInstalled, devicesInstalled⟩ := m
  cases reachable
  simp only [sendFrom, sendString_flat, sendAll_console, walkEnd]
  by_cases terminated : memory.Terminated pointer.toNat
  · rw [if_pos terminated]
    exact .sent installed rfl terminated
  · rw [if_neg terminated, Memory.stringFrom_of_not_terminated terminated]
    exact .unterminated installed rfl terminated

theorem transferred_transfer {m : Machine capacity Memory Console} (descriptor pointer : Word)
    (reachable : m.memoryInstalled = true) :
    Transferred m descriptor pointer (m.transfer descriptor pointer).1
      (m.transfer descriptor pointer).2 := by
  cases installed : m.devicesInstalled with
  | false =>
    have ignored : m.transfer descriptor pointer = (.ok (), m) := by
      obtain ⟨processor, memory, devices, memoryInstalled, devicesInstalled⟩ := m
      cases installed
      rfl
    rw [ignored]
    exact .absent installed
  | true =>
    -- A console does not change by being asked which way a descriptor goes.
    have resolved : m.transfer descriptor pointer =
        match Console.direction descriptor with
        | .error error => (.error (.device error), m)
        | .ok .input => m.receiveInto descriptor pointer
        | .ok .output => m.sendFrom descriptor pointer := by
      obtain ⟨processor, memory, devices, memoryInstalled, devicesInstalled⟩ := m
      cases installed
      simp only [transfer, DeviceBus.resolve]
      cases Console.direction descriptor with
      | error error => rfl
      | ok direction => cases direction <;> rfl
    rw [resolved]
    by_cases isInput : descriptor = 0
    · subst isInput
      exact transferred_receiveInto pointer reachable installed
    · by_cases isOutput : descriptor = 1
      · subst isOutput
        exact transferred_sendFrom pointer reachable installed
      · have unknown : Console.direction descriptor = .error (.noDevice descriptor) := by
          simp only [Console.direction, Console.inputDescriptor, Console.outputDescriptor, isInput,
            isOutput, if_false]
        rw [unknown]
        exact .unresolved installed isInput isOutput

/-! ## Requests -/

/-- How a request to flat memory and a console can end, and with which machine. -/
inductive Served (m : Machine capacity Memory Console) :
    Request → Except Fault Effect → Machine capacity Memory Console → Prop where
  | finished (effect : Effect) : Served m (.finish effect) (.ok effect) m
  | loaded {target : RegisterIndex} {address word : Word}
      (cell : m.memory.cells[address.toNat]? = some word) :
      Served m (.load target address) (.ok (.assign target word)) m
  | unloaded {target : RegisterIndex} {address : Word} (outside : m.memory.size ≤ address.toNat) :
      Served m (.load target address) (.error (.memory (.outOfBounds address))) m
  | stored {address value : Word} (inside : address.toNat < m.memory.size) :
      Served m (.store address value) (.ok .advance)
        { m with memory := (m.memory.write address value).2 }
  | unstored {address value : Word} (outside : m.memory.size ≤ address.toNat) :
      Served m (.store address value) (.error (.memory (.outOfBounds address))) m
  | transferred {descriptor pointer : Word} {served : Machine capacity Memory Console}
      (transfer : Transferred m descriptor pointer (.ok ()) served) :
      Served m (.transfer descriptor pointer) (.ok .advance) served
  | untransferred {descriptor pointer : Word} {fault : Fault}
      {served : Machine capacity Memory Console}
      (transfer : Transferred m descriptor pointer (.error fault) served) :
      Served m (.transfer descriptor pointer) (.error fault) served

theorem served_serve {m : Machine capacity Memory Console} (request : Request)
    (reachable : m.memoryInstalled = true) :
    Served m request (m.serve request).1 (m.serve request).2 := by
  cases request with
  | finish effect => exact .finished effect
  | load target address =>
    have answer : m.load address = (m.memory.read address, m) := by
      rw [load_flat, readFlat, if_pos reachable]
    simp only [serve, answer]
    by_cases inside : address.toNat < m.memory.size
    · obtain ⟨word, cell, accepted⟩ := Memory.read_inside inside
      simp only [accepted]
      exact .loaded cell
    · have outside := Nat.le_of_not_lt inside
      simp only [Memory.read_outside outside]
      exact .unloaded outside
  | store address value =>
    simp only [serve, store_flat reachable]
    by_cases inside : address.toNat < m.memory.size
    · obtain ⟨accepted, _⟩ := Memory.write_inside value inside
      simp only [accepted]
      exact .stored inside
    · have outside := Nat.le_of_not_lt inside
      simp only [Memory.write_outside value outside]
      exact .unstored outside
  | transfer descriptor pointer =>
    have transfer := transferred_transfer descriptor pointer reachable
    simp only [serve]
    split
    · rename_i fault served result
      rw [result] at transfer
      exact .untransferred transfer
    · rename_i served result
      rw [result] at transfer
      exact .transferred transfer

theorem served_of_serve {m served : Machine capacity Memory Console} {request : Request}
    {result : Except Fault Effect} (reachable : m.memoryInstalled = true)
    (serve : m.serve request = (result, served)) : Served m request result served := by
  have outcome := served_serve request reachable
  rwa [serve] at outcome

end Machine

end RegisterMachine

import RegisterMachine.Machine.Step

/-! # Accesses to memory and devices

While a request is served the processor is only looked at: no access to memory or to a device changes
it, nor what is installed (`Surrounds`). This holds for every memory bus and every device bus.

Over flat memory an access is plain: reading changes nothing at all (`load_flat`), and a write that is
refused changes nothing either (`store_flat`).
-/

namespace RegisterMachine

variable {capacity : Nat} {μ δ : Type}

/-! ## Flat memory by cells -/

namespace Memory

theorem read_eq_ok_iff {m : Memory} {address word : Word} :
    m.read address = .ok word ↔ m.cells[address.toNat]? = some word := by
  unfold read
  split
  · rename_i inside
    rw [Array.getElem?_eq_getElem inside, Except.ok.injEq, Option.some.injEq]
  · rename_i outside
    simp [Array.getElem?_eq_none (Nat.le_of_not_lt outside)]

theorem read_outside {m : Memory} {address : Word} (outside : m.size ≤ address.toNat) :
    m.read address = .error (.outOfBounds address) :=
  dif_neg (Nat.not_lt.2 outside)

theorem read_inside {m : Memory} {address : Word} (inside : address.toNat < m.size) :
    ∃ word, m.cells[address.toNat]? = some word ∧ m.read address = .ok word := by
  have bound : address.toNat < m.cells.size := inside
  exact ⟨m.cells[address.toNat], Array.getElem?_eq_getElem bound, dif_pos bound⟩

theorem read_eq_error {m : Memory} {address : Word} {error : MemoryError}
    (refused : m.read address = .error error) :
    m.size ≤ address.toNat ∧ error = .outOfBounds address := by
  by_cases inside : address.toNat < m.size
  · obtain ⟨word, _, accepted⟩ := read_inside inside
    rw [accepted] at refused
    cases refused
  · have outside := Nat.le_of_not_lt inside
    rw [read_outside outside] at refused
    cases refused
    exact ⟨outside, rfl⟩

theorem write_outside {m : Memory} {address : Word} (value : Word)
    (outside : m.size ≤ address.toNat) :
    m.write address value = (.error (.outOfBounds address), m) :=
  dif_neg (Nat.not_lt.2 outside)

theorem size_write (m : Memory) (address value : Word) :
    (m.write address value).2.size = m.size := by
  unfold write
  split
  · rename_i inside
    exact Array.size_set inside
  · rfl

theorem write_inside {m : Memory} {address : Word} (value : Word) (inside : address.toNat < m.size) :
    (m.write address value).1 = .ok () ∧
      ∀ i : Nat, (m.write address value).2.cells[i]? =
        if i = address.toNat then some value else m.cells[i]? := by
  have bound : address.toNat < m.cells.size := inside
  have accepted : m.write address value =
      (.ok (), ⟨m.cells.set address.toNat value bound, by simpa using m.addressable⟩) :=
    dif_pos bound
  rw [accepted]
  refine ⟨rfl, fun i => ?_⟩
  rw [Array.getElem?_set]
  by_cases same : address.toNat = i
  · simp [same]
  · have apart : ¬ i = address.toNat := fun equal => same equal.symm
    simp [same, apart]

end Memory

/-! ## What every access leaves alone -/

namespace Machine

/-- The second machine differs from the first at most in the contents of memory and devices. -/
structure Surrounds (m m' : Machine capacity μ δ) : Prop where
  processor : m'.processor = m.processor
  memoryInstalled : m'.memoryInstalled = m.memoryInstalled
  devicesInstalled : m'.devicesInstalled = m.devicesInstalled

theorem Surrounds.refl (m : Machine capacity μ δ) : Surrounds m m := ⟨rfl, rfl, rfl⟩

theorem Surrounds.trans {m m' m'' : Machine capacity μ δ} (first : Surrounds m m')
    (second : Surrounds m' m'') : Surrounds m m'' where
  processor := second.processor.trans first.processor
  memoryInstalled := second.memoryInstalled.trans first.memoryInstalled
  devicesInstalled := second.devicesInstalled.trans first.devicesInstalled

theorem surrounds_load [MemoryBus μ] (m : Machine capacity μ δ) (address : Word) :
    Surrounds m (m.load address).2 := by
  obtain ⟨processor, memory, devices, memoryInstalled, devicesInstalled⟩ := m
  cases memoryInstalled <;> exact ⟨rfl, rfl, rfl⟩

theorem surrounds_of_load [MemoryBus μ] {m fetched : Machine capacity μ δ} {address : Word}
    {result : Except MemoryError Word} (fetch : m.load address = (result, fetched)) :
    Surrounds m fetched := by
  have surrounds := surrounds_load m address
  rwa [fetch] at surrounds

theorem surrounds_store [MemoryBus μ] (m : Machine capacity μ δ) (address value : Word) :
    Surrounds m (m.store address value).2 := by
  obtain ⟨processor, memory, devices, memoryInstalled, devicesInstalled⟩ := m
  cases memoryInstalled <;> exact ⟨rfl, rfl, rfl⟩

theorem surrounds_sendFrom [MemoryBus μ] [DeviceBus δ] [StringsEnd μ δ] (m : Machine capacity μ δ)
    (descriptor pointer : Word) : Surrounds m (m.sendFrom descriptor pointer).2 := by
  obtain ⟨processor, memory, devices, memoryInstalled, devicesInstalled⟩ := m
  cases memoryInstalled <;> exact ⟨rfl, rfl, rfl⟩

theorem surrounds_receiveInto [MemoryBus μ] [DeviceBus δ] (m : Machine capacity μ δ)
    (descriptor pointer : Word) : Surrounds m (m.receiveInto descriptor pointer).2 := by
  obtain ⟨processor, memory, devices, memoryInstalled, devicesInstalled⟩ := m
  simp only [receiveInto]
  split
  · exact ⟨rfl, rfl, rfl⟩
  · rename_i byte devices' _
    -- The store behind the device sees the devices as the read has left them.
    have stored := surrounds_store
      ⟨processor, memory, devices', memoryInstalled, devicesInstalled⟩ pointer byte.toUInt64
    split
    · rename_i result
      rw [result] at stored
      exact ⟨stored.processor, stored.memoryInstalled, stored.devicesInstalled⟩
    · rename_i result
      rw [result] at stored
      exact ⟨stored.processor, stored.memoryInstalled, stored.devicesInstalled⟩

theorem surrounds_transfer [MemoryBus μ] [DeviceBus δ] [StringsEnd μ δ] (m : Machine capacity μ δ)
    (descriptor pointer : Word) : Surrounds m (m.transfer descriptor pointer).2 := by
  obtain ⟨processor, memory, devices, memoryInstalled, devicesInstalled⟩ := m
  cases devicesInstalled with
  | false => exact ⟨rfl, rfl, rfl⟩
  | true =>
    simp only [transfer]
    split
    · exact ⟨rfl, rfl, rfl⟩
    · rename_i devices' _
      have received := surrounds_receiveInto
        ⟨processor, memory, devices', memoryInstalled, true⟩ descriptor pointer
      exact ⟨received.processor, received.memoryInstalled, received.devicesInstalled⟩
    · rename_i devices' _
      have sent := surrounds_sendFrom
        ⟨processor, memory, devices', memoryInstalled, true⟩ descriptor pointer
      exact ⟨sent.processor, sent.memoryInstalled, sent.devicesInstalled⟩

/-- Serving a request shows the processor to memory and devices and leaves it as it is. -/
theorem surrounds_serve [MemoryBus μ] [DeviceBus δ] [StringsEnd μ δ] (m : Machine capacity μ δ)
    (request : Request) : Surrounds m (m.serve request).2 := by
  cases request with
  | finish effect => exact .refl m
  | load target address =>
    have loaded := surrounds_load m address
    simp only [serve]
    split <;> (rename_i result; rw [result] at loaded; exact loaded)
  | store address value =>
    have stored := surrounds_store m address value
    simp only [serve]
    split <;> (rename_i result; rw [result] at stored; exact stored)
  | transfer descriptor pointer =>
    have transferred := surrounds_transfer m descriptor pointer
    simp only [serve]
    split <;> (rename_i result; rw [result] at transferred; exact transferred)

theorem surrounds_of_serve [MemoryBus μ] [DeviceBus δ] [StringsEnd μ δ]
    {m served : Machine capacity μ δ} {request : Request} {result : Except Fault Effect}
    (serve : m.serve request = (result, served)) : Surrounds m served := by
  have surrounds := surrounds_serve m request
  rwa [serve] at surrounds

/-! ## Flat memory behind the processor -/

/-- What the processor is answered when it reads flat memory. -/
def readFlat (m : Machine capacity Memory δ) (address : Word) : Except MemoryError Word :=
  if m.memoryInstalled then m.memory.read address else .error .notInstalled

theorem load_flat (m : Machine capacity Memory δ) (address : Word) :
    m.load address = (m.readFlat address, m) := by
  obtain ⟨processor, memory, devices, memoryInstalled, devicesInstalled⟩ := m
  cases memoryInstalled <;> rfl

theorem readFlat_eq_ok {m : Machine capacity Memory δ} {address word : Word}
    (read : m.readFlat address = .ok word) :
    m.memoryInstalled = true ∧ m.memory.cells[address.toNat]? = some word := by
  unfold readFlat at read
  split at read
  · rename_i installed
    exact ⟨installed, Memory.read_eq_ok_iff.1 read⟩
  · cases read

theorem fetch_flat {m fetched : Machine capacity Memory δ} {word : Word}
    (fetch : m.load m.processor.pc = (.ok word, fetched)) :
    fetched = m ∧ m.memoryInstalled = true ∧
      m.memory.cells[m.processor.pc.toNat]? = some word := by
  rw [load_flat] at fetch
  obtain ⟨read, rfl⟩ := Prod.mk.inj fetch
  exact ⟨rfl, readFlat_eq_ok read⟩

theorem unfetched_flat {m fetched : Machine capacity Memory δ} {error : MemoryError}
    (fetch : m.load m.processor.pc = (.error error, fetched)) : fetched = m := by
  rw [load_flat] at fetch
  exact (Prod.mk.inj fetch).2.symm

theorem store_flat {m : Machine capacity Memory δ} (installed : m.memoryInstalled = true)
    (address value : Word) :
    m.store address value =
      ((m.memory.write address value).1, { m with memory := (m.memory.write address value).2 }) := by
  obtain ⟨processor, memory, devices, memoryInstalled, devicesInstalled⟩ := m
  cases installed
  rfl

end Machine

end RegisterMachine

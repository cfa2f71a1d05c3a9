import RegisterMachine.Memory.Bus

/-! # Monitored memory

A memory bus for experiments: flat memory of which either direction may be left unserved, single
addresses may be made to fail, and every request that reaches it may be recorded together with the
registers that came with it.
-/

namespace RegisterMachine

inductive AccessKind where
  | read
  | write (value : Word)
deriving DecidableEq, Repr

structure Access where
  kind : AccessKind
  address : Word
  view : Registers
deriving DecidableEq, Repr

structure MonitoredMemory where
  memory : Memory
  readable : Bool := true
  writable : Bool := true
  /-- Addresses at which every read fails. -/
  failingReads : List Word := []
  /-- Addresses at which every write fails. -/
  failingWrites : List Word := []
  recording : Bool := false
  accesses : Array Access := #[]

namespace MonitoredMemory

/-! ## Requests -/

def record (m : MonitoredMemory) (kind : AccessKind) (address : Word) (view : Registers) :
    MonitoredMemory :=
  if m.recording then { m with accesses := m.accesses.push { kind, address, view } } else m

/-- Serves a read. A direction that is not served leaves no record. -/
def read (m : MonitoredMemory) (view : Registers) (address : Word) :
    Except MemoryError Word × MonitoredMemory :=
  if m.readable then
    (if m.failingReads.contains address then .error (.outOfBounds address)
      else m.memory.read address,
     m.record .read address view)
  else (.error .notInstalled, m)

def write (m : MonitoredMemory) (view : Registers) (address value : Word) :
    Except MemoryError Unit × MonitoredMemory :=
  if m.writable then
    match m.record (.write value) address view with
    | ⟨memory, readable, writable, failingReads, failingWrites, recording, accesses⟩ =>
      if failingWrites.contains address then
        (.error (.outOfBounds address),
          ⟨memory, readable, writable, failingReads, failingWrites, recording, accesses⟩)
      else
        match memory.write address value with
        | (result, memory) =>
          (result, ⟨memory, readable, writable, failingReads, failingWrites, recording, accesses⟩)
  else (.error .notInstalled, m)

/-- Changes the flat memory behind the bus, unseen by the record. -/
def modifyMemory {α : Type} (m : MonitoredMemory) (f : Memory → α × Memory) :
    α × MonitoredMemory :=
  match m with
  | ⟨memory, readable, writable, failingReads, failingWrites, recording, accesses⟩ =>
    match f memory with
    | (result, memory) =>
      (result, ⟨memory, readable, writable, failingReads, failingWrites, recording, accesses⟩)

/-! ## What a request leaves -/

@[simp] theorem memory_record (m : MonitoredMemory) (kind : AccessKind) (address : Word)
    (view : Registers) : (m.record kind address view).memory = m.memory := by
  unfold record
  split <;> rfl

@[simp] theorem memory_read (m : MonitoredMemory) (view : Registers) (address : Word) :
    (m.read view address).2.memory = m.memory := by
  unfold read
  split <;> simp

theorem lt_size_of_read {m : MonitoredMemory} {view : Registers} {address word : Word}
    (h : (m.read view address).1 = .ok word) : address.toNat < m.memory.size := by
  unfold read at h
  split at h
  · simp only at h
    split at h
    · cases h
    · exact Memory.lt_size_of_read h
  · cases h

instance : MemoryBus MonitoredMemory where
  read := read
  write := write

instance : BoundedMemory MonitoredMemory where
  extent m := m.memory.size
  extent_lt m := m.memory.addressable
  lt_extent_of_read h := lt_size_of_read h
  extent_read m view address := congrArg Memory.size (memory_read m view address)

end MonitoredMemory

end RegisterMachine

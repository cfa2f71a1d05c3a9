import Mathlib.Data.List.TakeWhile
import RegisterMachine.Proofs.Machine.Access

/-! # Strings in flat memory

The loop that sends a string reads a cell, tests its low byte and sends it, one after another.
`sendString_flat` says what the whole loop does over flat memory, for every device bus: it gives the
device the bytes of `Memory.stringFrom`, up to the first one refused, and afterwards it either has met a
zero byte or has left memory at `Memory.endOfWalk`.
-/

namespace RegisterMachine

variable {δ : Type}

/-! ## Bytes of cells -/

namespace Memory

/-- The low bytes of the cells from an index to the end of memory. -/
def bytesFrom (m : Memory) (start : Nat) : List UInt8 :=
  (m.cells.toList.drop start).map UInt64.toUInt8

/-- The string that starts at an index: the low bytes up to, and without, the first that is zero, or up
to the end of memory if there is none. -/
def stringFrom (m : Memory) (start : Nat) : List UInt8 :=
  (m.bytesFrom start).takeWhile (· != 0)

def Terminated (m : Memory) (start : Nat) : Prop :=
  ∃ i word, start ≤ i ∧ m.cells[i]? = some word ∧ word.toUInt8 = 0

/-- The first address, from a given one on, at which there is no cell. -/
def endOfWalk (m : Memory) (start : Word) : Word :=
  UInt64.ofNat (max start.toNat m.size)

theorem bytesFrom_inside {m : Memory} {start : Nat} {word : Word}
    (cell : m.cells[start]? = some word) :
    m.bytesFrom start = word.toUInt8 :: m.bytesFrom (start + 1) := by
  obtain ⟨inside, value⟩ := Array.getElem?_eq_some_iff.1 cell
  have bound : start < m.cells.toList.length := by simpa using inside
  simp only [bytesFrom, List.drop_eq_getElem_cons bound, List.map_cons, Array.getElem_toList, value]

theorem bytesFrom_outside {m : Memory} {start : Nat} (outside : m.size ≤ start) :
    m.bytesFrom start = [] := by
  have short : m.cells.toList.length ≤ start := by
    rw [Array.length_toList]
    exact outside
  simp only [bytesFrom, List.drop_eq_nil_of_le short, List.map_nil]

theorem terminated_iff_mem {m : Memory} {start : Nat} :
    m.Terminated start ↔ 0 ∈ m.bytesFrom start := by
  constructor
  · rintro ⟨i, word, behind, cell, zero⟩
    refine List.mem_map.2 ⟨word, ?_, zero⟩
    refine List.mem_of_getElem? (i := i - start) ?_
    rw [List.getElem?_drop, Array.getElem?_toList, Nat.add_sub_cancel' behind, cell]
  · intro member
    obtain ⟨word, dropped, zero⟩ := List.mem_map.1 member
    obtain ⟨offset, cell⟩ := List.getElem?_of_mem dropped
    rw [List.getElem?_drop, Array.getElem?_toList] at cell
    exact ⟨start + offset, word, Nat.le_add_right _ _, cell, zero⟩

instance (m : Memory) (start : Nat) : Decidable (m.Terminated start) :=
  decidable_of_iff (0 ∈ m.bytesFrom start) terminated_iff_mem.symm

theorem endOfWalk_outside {m : Memory} {start : Word} (outside : m.size ≤ start.toNat) :
    m.endOfWalk start = start := by
  rw [endOfWalk, Nat.max_eq_left outside, UInt64.ofNat_toNat]

theorem toNat_succ_of_inside {m : Memory} {start : Word} (inside : start.toNat < m.size) :
    (start + 1).toNat = start.toNat + 1 := by
  have bound : m.size < UInt64.size := m.addressable
  rw [UInt64.toNat_add]
  exact Nat.mod_eq_of_lt (by simpa using (by omega : start.toNat + 1 < UInt64.size))

theorem endOfWalk_succ {m : Memory} {start : Word} (inside : start.toNat < m.size) :
    m.endOfWalk (start + 1) = m.endOfWalk start := by
  rw [endOfWalk, endOfWalk, toNat_succ_of_inside inside, Nat.max_eq_right inside,
    Nat.max_eq_right (Nat.le_of_lt inside)]

theorem stringFrom_of_not_terminated {m : Memory} {start : Nat} (endless : ¬ m.Terminated start) :
    m.stringFrom start = m.bytesFrom start := by
  refine List.takeWhile_eq_self_iff.2 fun byte member => bne_iff_ne.2 ?_
  rintro rfl
  exact endless (terminated_iff_mem.2 member)

end Memory

/-! ## The loop -/

/-- Gives bytes to the output device with a descriptor, up to the first that it refuses. -/
def sendAll [DeviceBus δ] (descriptor : Word) : List UInt8 → δ → Except DeviceError Unit × δ
  | [], devices => (.ok (), devices)
  | byte :: bytes, devices =>
    match DeviceBus.send devices descriptor byte with
    | (.error error, devices) => (.error error, devices)
    | (.ok (), devices) => sendAll descriptor bytes devices

/-- What a walk along a string comes to, given the answer of the device. -/
def walkEnd (memory : Memory) (address : Word) :
    Except DeviceError Unit × δ → Except Fault Unit × Memory × δ
  | (.error error, devices) => (.error (.device error), memory, devices)
  | (.ok (), devices) =>
    (if memory.Terminated address.toNat then .ok ()
      else .error (.memory (.outOfBounds (memory.endOfWalk address))), memory, devices)

theorem sendString_flat [DeviceBus δ] (view : Registers) (descriptor address : Word)
    (memory : Memory) (devices : δ) :
    sendString view descriptor address memory devices =
      walkEnd memory address (sendAll descriptor (memory.stringFrom address.toNat) devices) := by
  fun_induction sendString view descriptor address memory devices with
  | case1 address memory devices error memory' read =>
    obtain ⟨refused, rfl⟩ := Prod.mk.inj read
    obtain ⟨outside, rfl⟩ := Memory.read_eq_error refused
    have empty := Memory.bytesFrom_outside outside
    simp [Memory.stringFrom, empty, sendAll, walkEnd, Memory.terminated_iff_mem,
      Memory.endOfWalk_outside outside]
  | case2 address memory devices word memory' read zero =>
    obtain ⟨accepted, rfl⟩ := Prod.mk.inj read
    have bytes := Memory.bytesFrom_inside (Memory.read_eq_ok_iff.1 accepted)
    simp [Memory.stringFrom, bytes, zero, sendAll, walkEnd, Memory.terminated_iff_mem]
  | case3 address memory devices word memory' read nonzero error devices' refused =>
    obtain ⟨accepted, rfl⟩ := Prod.mk.inj read
    have bytes := Memory.bytesFrom_inside (Memory.read_eq_ok_iff.1 accepted)
    simp [Memory.stringFrom, bytes, nonzero, sendAll, refused, walkEnd]
  | case4 address memory devices word memory' read nonzero devices' sent inductionHypothesis =>
    obtain ⟨accepted, rfl⟩ := Prod.mk.inj read
    have bytes := Memory.bytesFrom_inside (Memory.read_eq_ok_iff.1 accepted)
    have inside := Memory.lt_size_of_read accepted
    rw [inductionHypothesis, Memory.toNat_succ_of_inside inside]
    -- Both sides have sent the same bytes; the walk behind `address` ends where the one from it ends.
    have rest : sendAll descriptor (memory.stringFrom address.toNat) devices =
        sendAll descriptor (memory.stringFrom (address.toNat + 1)) devices' := by
      simp [Memory.stringFrom, bytes, nonzero, sendAll, sent]
    rw [rest]
    cases sendAll descriptor (memory.stringFrom (address.toNat + 1)) devices' with
    | mk answer devices'' =>
      cases answer with
      | error error => rfl
      | ok _ =>
        simp [walkEnd, Memory.terminated_iff_mem, bytes, Memory.endOfWalk_succ inside,
          Memory.toNat_succ_of_inside inside, Ne.symm nonzero]

end RegisterMachine

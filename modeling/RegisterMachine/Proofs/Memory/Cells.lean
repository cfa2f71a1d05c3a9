import RegisterMachine.Proofs.Machine.Access
import RegisterMachine.Proofs.Memory.Loading

/-! # Memory as a row of cells

An access to memory uses certain cells (`MemoryAccess.cells`). It is accepted exactly if all of them exist
(`answer_eq_ok_iff`), it changes no others (`getElem?_access_of_unused`), and one that is refused changes
nothing (`access_of_refused`). A load copies its whole program (`getElem?_loadProgram`), a dump lists the
cells of its window (`dump_eq`), and the number of cells stays the same (`size_accesses`).

Addresses are compared as natural numbers. A program that is accepted ends within memory, and a dump is cut
at the end of memory, so that neither can wrap around.
-/

namespace RegisterMachine

/-! ## Accesses from outside -/

inductive MemoryAccess where
  | read (address : Word)
  | write (address value : Word)
  | loadProgram (start : Word) (program : List Word)
  | loadString (start : Word) (bytes : List UInt8)
  | clear
deriving DecidableEq, Repr

/-- The cells that an access to a memory of a size uses, by their indices. -/
def MemoryAccess.cells (size : Nat) : MemoryAccess → List Nat
  | .read address | .write address _ => [address.toNat]
  | .loadProgram start program => List.range' start.toNat program.length
  | .loadString start bytes => List.range' start.toNat (bytes.length + 1)
  | .clear => List.range size

/-- What memory answers to an access, but for the word that is read. -/
def Memory.answer (m : Memory) : MemoryAccess → Except MemoryError Unit
  | .read address => (m.read address).map fun _ => ()
  | .write address value => (m.write address value).1
  | .loadProgram start program => (m.loadProgram start program).1
  | .loadString start bytes => (m.loadString start bytes).1
  | .clear => .ok ()

def Memory.access (m : Memory) : MemoryAccess → Memory
  | .read _ => m
  | .write address value => (m.write address value).2
  | .loadProgram start program => (m.loadProgram start program).2
  | .loadString start bytes => (m.loadString start bytes).2
  | .clear => m.clear

namespace Memory

theorem size_loadProgram (m : Memory) (start : Word) (program : List Word) :
    (m.loadProgram start program).2.size = m.size := by
  unfold loadProgram
  split
  · exact size_overwrite _ _ _
  · rfl

@[simp] theorem size_access (m : Memory) (access : MemoryAccess) :
    (m.access access).size = m.size := by
  cases access with
  | read address => rfl
  | write address value => exact size_write m address value
  | loadProgram start program => exact size_loadProgram m start program
  | loadString start bytes => exact size_loadProgram m start _
  | clear => exact Array.size_replicate

theorem size_accesses (m : Memory) (history : List MemoryAccess) :
    (history.foldl access m).size = m.size := by
  induction history generalizing m with
  | nil => rfl
  | cons first history inductionHypothesis =>
    exact (inductionHypothesis (m.access first)).trans (size_access m first)

variable {m : Memory} {start : Word} {program : List Word}

/-! ## Loading -/

theorem loadProgram_fits (fits : program.length ≤ m.size - start.toNat) :
    (m.loadProgram start program).1 = .ok () := by
  have room : program.length ≤ m.available start := fits
  rw [loadProgram, if_pos room]

theorem loadProgram_excess (excess : m.size - start.toNat < program.length) :
    m.loadProgram start program =
      (.error (.programTooLarge program.length (m.size - start.toNat)), m) :=
  if_neg (Nat.not_le.2 excess)

theorem loadProgram_eq_ok_iff :
    (m.loadProgram start program).1 = .ok () ↔ program.length ≤ m.size - start.toNat := by
  refine ⟨fun accepted => ?_, loadProgram_fits⟩
  by_contra excess
  rw [loadProgram_excess (Nat.lt_of_not_le excess)] at accepted
  cases accepted

/-- An empty program fits everywhere, also behind the end of memory. -/
theorem loadProgram_nil (m : Memory) (start : Word) : m.loadProgram start [] = (.ok (), m) :=
  if_pos (Nat.zero_le _)

theorem getElem?_spliced {cells words : List Word} {start : Nat}
    (fits : start + words.length ≤ cells.length) (i : Nat) :
    (cells.take start ++ words ++ cells.drop (start + words.length))[i]? =
      if start ≤ i ∧ i < start + words.length then words[i - start]? else cells[i]? := by
  have front : (cells.take start).length = start := by
    rw [List.length_take]
    omega
  obtain before | behind := Nat.lt_or_ge i start
  · rw [if_neg (by omega), List.append_assoc, List.getElem?_append_left (by omega),
      List.getElem?_take_of_lt before]
  obtain inside | after := Nat.lt_or_ge i (start + words.length)
  · rw [if_pos ⟨behind, inside⟩, List.append_assoc, List.getElem?_append_right (by omega), front,
      List.getElem?_append_left (by omega)]
  · have whole : (cells.take start ++ words).length = start + words.length := by
      rw [List.length_append, front]
    rw [if_neg (by omega), List.getElem?_append_right (by omega), whole, List.getElem?_drop]
    congr 1
    omega

theorem getElem?_loadProgram (accepted : (m.loadProgram start program).1 = .ok ()) (i : Nat) :
    (m.loadProgram start program).2.cells[i]? =
      if start.toNat ≤ i ∧ i < start.toNat + program.length then program[i - start.toNat]?
      else m.cells[i]? := by
  cases program with
  | nil =>
    rw [loadProgram_nil, if_neg (by simp)]
  | cons word words =>
    obtain ⟨cells, fits⟩ := toList_loadProgram (Prod.ext accepted rfl) (List.cons_ne_nil word words)
    have spliced := getElem?_spliced fits i
    have known : m.cells.toList[i]? = m.cells[i]? := Array.getElem?_toList
    rwa [← cells, Array.getElem?_toList, known] at spliced

theorem read_eq_elim (m : Memory) (address : Word) :
    m.read address = m.cells[address.toNat]?.elim (.error (.outOfBounds address)) .ok := by
  unfold read
  split
  · rename_i inside
    rw [Array.getElem?_eq_getElem inside]
    rfl
  · rename_i outside
    rw [Array.getElem?_eq_none (Nat.le_of_not_lt outside)]
    rfl

theorem read_loadProgram (accepted : (m.loadProgram start program).1 = .ok ()) (address : Word) :
    (m.loadProgram start program).2.read address =
      if inside : start.toNat ≤ address.toNat ∧
          address.toNat < start.toNat + program.length then
        .ok program[address.toNat - start.toNat]
      else m.read address := by
  rw [read_eq_elim, getElem?_loadProgram accepted]
  split
  · rw [List.getElem?_eq_getElem (by omega)]
    rfl
  · exact (read_eq_elim m address).symm

theorem read_write (m : Memory) (address value other : Word) :
    (m.write address value).2.read other =
      if other = address ∧ address.toNat < m.size then .ok value else m.read other := by
  by_cases inside : address.toNat < m.size
  · rw [read_eq_elim, (write_inside value inside).2]
    by_cases same : other = address
    · simp [same, inside]
    · have apart : ¬ other.toNat = address.toNat := fun equal => same (UInt64.toNat_inj.1 equal)
      rw [if_neg apart, if_neg fun both => same both.1, read_eq_elim]
  · rw [write_outside value (Nat.le_of_not_lt inside), if_neg fun both => inside both.2]

theorem read_clear (m : Memory) (address : Word) :
    m.clear.read address = if address.toNat < m.size then .ok 0 else .error (.outOfBounds address) := by
  simp only [read, clear, Array.size_replicate, Array.getElem_replicate]
  exact dite_eq_ite

/-! ## Dumps -/

theorem filter_range (start stop : Nat) :
    (List.range stop).filter (start ≤ ·) = List.range' start (stop - start) := by
  induction stop with
  | zero => simp
  | succ stop inductionHypothesis =>
    rw [List.range_succ, List.filter_append, inductionHypothesis]
    by_cases reached : start ≤ stop
    · rw [Nat.succ_sub reached, List.range'_1_concat, Nat.add_sub_cancel' reached]
      simp [reached]
    · have before : stop + 1 - start = 0 := by omega
      simp [reached, before, Nat.sub_eq_zero_of_le (Nat.le_of_not_le reached)]

/-- A dump lists the cells of its window, each with what a read would give. -/
theorem dump_eq (m : Memory) (start count : Nat) :
    (m.dump start count).map (fun (i, word) => (i, .ok word)) =
      ((List.range (min (start + count) m.size)).filter (start ≤ ·)).map fun i =>
        (i, m.read (UInt64.ofNat i)) := by
  -- The end of memory is an index, so that the largest index is never in the way.
  have stop : min (saturatingAdd start count) m.cells.size = min (start + count) m.size := by
    have addressable := m.addressable
    unfold saturatingAdd size
    omega
  rw [filter_range, dump, stop, List.map_map]
  refine List.map_congr_left fun i listed => ?_
  have inside : i < m.cells.size := by
    obtain ⟨_, below⟩ := List.mem_range'_1.1 listed
    unfold size at below
    omega
  have home : (UInt64.ofNat i).toNat = i :=
    UInt64.toNat_ofNat_of_lt' (Nat.lt_trans inside m.addressable)
  rw [read_eq_elim, home, Array.getElem?_eq_getElem inside]
  simp [inside]

/-! ## Every access -/

theorem answer_eq_ok_iff (m : Memory) (access : MemoryAccess) :
    m.answer access = .ok () ↔ ∀ i ∈ access.cells m.size, i < m.size := by
  have loads (start : Word) (length : Nat) :
      length ≤ m.size - start.toNat ↔ ∀ i ∈ List.range' start.toNat length, i < m.size := by
    simp only [List.mem_range'_1]
    refine ⟨fun fits i inside => by omega, fun inside => ?_⟩
    cases length with
    | zero => exact Nat.zero_le _
    | succ length =>
      have last := inside (start.toNat + length) (by omega)
      omega
  cases access with
  | read address =>
    simp only [answer, MemoryAccess.cells, List.forall_mem_singleton]
    by_cases inside : address.toNat < m.size
    · obtain ⟨word, _, read⟩ := read_inside inside
      simp [read, inside, Except.map]
    · simp [read_outside (Nat.le_of_not_lt inside), inside, Except.map]
  | write address value =>
    simp only [answer, MemoryAccess.cells, List.forall_mem_singleton]
    by_cases inside : address.toNat < m.size
    · simp [write_inside value inside, inside]
    · simp [write_outside value (Nat.le_of_not_lt inside), inside]
  | loadProgram start program => exact loadProgram_eq_ok_iff.trans (loads start program.length)
  | loadString start bytes =>
    refine loadProgram_eq_ok_iff.trans ((loads start _).trans ?_)
    simp [MemoryAccess.cells]
  | clear => simp [answer, MemoryAccess.cells]

theorem access_of_refused {access : MemoryAccess} (refused : m.answer access ≠ .ok ()) :
    m.access access = m := by
  cases access with
  | read address => rfl
  | write address value =>
    by_cases inside : address.toNat < m.size
    · exact absurd (write_inside value inside).1 refused
    · exact congrArg Prod.snd (write_outside value (Nat.le_of_not_lt inside))
  | loadProgram start program =>
    have excess := Nat.lt_of_not_le fun fits => refused (loadProgram_fits fits)
    exact congrArg Prod.snd (loadProgram_excess excess)
  | loadString start bytes =>
    have excess := Nat.lt_of_not_le fun fits => refused (loadProgram_fits fits)
    exact congrArg Prod.snd (loadProgram_excess excess)
  | clear => exact absurd rfl refused

theorem getElem?_access_of_unused {access : MemoryAccess} {i : Nat}
    (unused : i ∉ access.cells m.size) : (m.access access).cells[i]? = m.cells[i]? := by
  by_cases accepted : m.answer access = .ok ()
  case neg => rw [access_of_refused accepted]
  cases access with
  | read address => rfl
  | write address value =>
    have inside : address.toNat < m.size :=
      (answer_eq_ok_iff m _).1 accepted _ (List.mem_singleton.2 rfl)
    have apart : i ≠ address.toNat := fun same => unused (List.mem_singleton.2 same)
    exact ((write_inside value inside).2 i).trans (if_neg apart)
  | loadProgram start program =>
    refine (getElem?_loadProgram accepted i).trans (if_neg fun inside => unused ?_)
    exact List.mem_range'_1.2 inside
  | loadString start bytes =>
    refine (getElem?_loadProgram accepted i).trans (if_neg fun inside => unused ?_)
    exact List.mem_range'_1.2 (by simpa using inside)
  | clear =>
    have behind : m.cells.size ≤ i := Nat.le_of_not_lt fun inside => unused (List.mem_range.2 inside)
    have cleared : (m.access .clear).cells.size ≤ i := (size_access m .clear).trans_le behind
    rw [Array.getElem?_eq_none behind, Array.getElem?_eq_none cleared]

/-- Memory is a row of cells behind a bounds check. A program is loaded as a whole or not at all, a string
is loaded as its bytes and a zero, a write replaces one cell, and a dump lists the cells of its window.
Behind any history of accesses there are as many cells as before, an access is accepted exactly if all
cells that it uses exist, no other cell changes, and one that is refused changes nothing. -/
theorem accesses_checked (m : Memory) :
    (∀ (start : Word) (program : List Word),
      ((m.loadProgram start program).1 = .ok () ↔ program.length ≤ m.size - start.toNat) ∧
      (program.length ≤ m.size - start.toNat → ∀ address : Word,
        (m.loadProgram start program).2.read address =
          if inside : start.toNat ≤ address.toNat ∧
              address.toNat < start.toNat + program.length then
            .ok program[address.toNat - start.toNat]
          else m.read address) ∧
      (m.size - start.toNat < program.length →
        m.loadProgram start program =
          (.error (.programTooLarge program.length (m.size - start.toNat)), m))) ∧
    (∀ (start : Word) (bytes : List UInt8),
      m.loadString start bytes = m.loadProgram start (bytes.map UInt8.toUInt64 ++ [0])) ∧
    (∀ address value other : Word,
      (m.write address value).2.read other =
        if other = address ∧ address.toNat < m.size then .ok value else m.read other) ∧
    (∀ address : Word,
      m.clear.read address =
        if address.toNat < m.size then .ok 0 else .error (.outOfBounds address)) ∧
    (∀ start count : Nat,
      (m.dump start count).map (fun (i, word) => (i, .ok word)) =
        ((List.range (min (start + count) m.size)).filter (start ≤ ·)).map fun i =>
          (i, m.read (UInt64.ofNat i))) ∧
    ∀ history : List MemoryAccess,
      let after := history.foldl access m
      after.size = m.size ∧ ∀ access : MemoryAccess,
        (after.answer access = .ok () ↔ ∀ i ∈ access.cells m.size, i < m.size) ∧
        (∀ i ∉ access.cells m.size, (after.access access).cells[i]? = after.cells[i]?) ∧
        (after.answer access ≠ .ok () → after.access access = after) := by
  refine ⟨fun start program => ⟨loadProgram_eq_ok_iff, fun fits => ?_, loadProgram_excess⟩,
    fun start bytes => rfl, read_write m, read_clear m, dump_eq m, fun history => ?_⟩
  · exact read_loadProgram (loadProgram_fits fits)
  have sized := size_accesses m history
  refine ⟨sized, fun access => ?_⟩
  rw [← sized]
  exact ⟨answer_eq_ok_iff _ access, fun i unused => getElem?_access_of_unused unused,
    access_of_refused⟩

/-- In four cells, two words fit at address two and not at address three. -/
theorem accesses_checked_four_cells :
    ((zeroed 4).loadProgram 2 [7, 9]).2.read 3 = .ok 9 ∧
      (zeroed 4).loadProgram 3 [7, 9] = (.error (.programTooLarge 2 1), zeroed 4) := by
  obtain ⟨loads, _⟩ := accesses_checked (zeroed 4)
  obtain ⟨_, loaded, _⟩ := loads 2 [7, 9]
  obtain ⟨_, _, refused⟩ := loads 3 [7, 9]
  exact ⟨loaded (by decide) 3, refused (by decide)⟩

end Memory

end RegisterMachine

import RegisterMachine.Debugger.Session
import RegisterMachine.Proofs.Machine.Access

/-! # The disassembly window

The window asks for one row after another, from half its rows before the program counter on, and leaves out
the rows that have no cell. Memory ends before addresses do, so that the rows that are left out are the last
ones: what is shown is a row of cells without a gap (`window_eq`), and the program counter stands in it
wherever it stands in memory (`window_shows_counter`).
-/

namespace RegisterMachine

/-- A function that is defined up to a number is nowhere skipped on the way there. -/
theorem filterMap_range {α : Type} {f : Nat → Option α} (g : Nat → α) (bound : Nat)
    (inside : ∀ i < bound, f i = some (g i)) (outside : ∀ i, bound ≤ i → f i = none) (count : Nat) :
    (List.range count).filterMap f = (List.range (min count bound)).map g := by
  induction count with
  | zero => simp
  | succ count inductionHypothesis =>
    rw [List.range_succ, List.filterMap_append, inductionHypothesis]
    obtain below | reached := Nat.lt_or_ge count bound
    · have all : min count bound = count := by omega
      have more : min (count + 1) bound = count + 1 := by omega
      simp [all, more, inside count below, List.range_succ]
    · have same : min (count + 1) bound = min count bound := by omega
      simp [same, outside count reached]

namespace Debugger.Session

variable {s : Session}

/-! ## Rows -/

def cellRow (s : Session) (index : Nat) : WindowRow where
  address := UInt64.ofNat index
  text := disassemble (s.machine.memory.cells.getD index 0)
  current := UInt64.ofNat index == s.machine.processor.pc

theorem toNat_address_cellRow {index : Nat} (inside : index < s.machine.memory.size) :
    (s.cellRow index).address.toNat = index :=
  UInt64.toNat_ofNat_of_lt' (Nat.lt_trans inside s.machine.memory.addressable)

theorem read_cellRow {index : Nat} (inside : index < s.machine.memory.size) :
    s.machine.memory.read (s.cellRow index).address =
      .ok (s.machine.memory.cells.getD index 0) := by
  have bound : index < s.machine.memory.cells.size := inside
  rw [Memory.read_eq_ok_iff, toNat_address_cellRow inside, Array.getElem?_eq_getElem bound,
    Array.getD_eq_getD_getElem?, Array.getElem?_eq_getElem bound, Option.getD_some]

theorem current_cellRow_iff {index : Nat} (inside : index < s.machine.memory.size) :
    (s.cellRow index).current = true ↔ index = s.machine.processor.pc.toNat := by
  have home : (UInt64.ofNat index).toNat = index := toNat_address_cellRow inside
  calc (s.cellRow index).current = true
    _ ↔ UInt64.ofNat index = s.machine.processor.pc := beq_iff_eq
    _ ↔ (UInt64.ofNat index).toNat = s.machine.processor.pc.toNat := UInt64.toNat_inj.symm
    _ ↔ index = s.machine.processor.pc.toNat := by rw [home]

theorem row?_inside {index : Nat} (inside : index < s.machine.memory.size) :
    (Word.ofNat? index).bind s.row? = some (s.cellRow index) := by
  have fits : index < UInt64.size := Nat.lt_trans inside s.machine.memory.addressable
  have read := read_cellRow inside
  rw [Word.ofNat?, if_pos fits, Option.bind_some, row?]
  simp only [cellRow] at read ⊢
  rw [read]

theorem row?_outside {index : Nat} (outside : s.machine.memory.size ≤ index) :
    (Word.ofNat? index).bind s.row? = none := by
  by_cases fits : index < UInt64.size
  · have home : (UInt64.ofNat index).toNat = index := UInt64.toNat_ofNat_of_lt' fits
    have beyond : s.machine.memory.size ≤ (UInt64.ofNat index).toNat := by rwa [home]
    rw [Word.ofNat?, if_pos fits, Option.bind_some, row?, Memory.read_outside beyond]
  · rw [Word.ofNat?, if_neg fits, Option.bind_none]

/-! ## The window -/

/-- The index of the first cell in a window. -/
def windowStart (s : Session) (rows : Nat) : Nat :=
  s.machine.processor.pc.toNat - rows / 2

/-- The index behind the last cell in a window. -/
def windowStop (s : Session) (rows : Nat) : Nat :=
  min (s.windowStart rows + rows) s.machine.memory.size

theorem window_eq (s : Session) (rows : Nat) :
    s.window rows =
      (List.range' (s.windowStart rows) (s.windowStop rows - s.windowStart rows)).map s.cellRow := by
  have count : min rows (s.machine.memory.size - s.windowStart rows) =
      s.windowStop rows - s.windowStart rows := by
    unfold windowStop
    omega
  rw [List.range'_eq_map_range, List.map_map, ← count]
  refine filterMap_range (s.cellRow ∘ (s.windowStart rows + ·)) _ (fun i below => ?_)
    (fun i behind => ?_) rows
  · have inside : s.windowStart rows + i < s.machine.memory.size := by omega
    exact row?_inside inside
  · have outside : s.machine.memory.size ≤ s.windowStart rows + i := by omega
    exact row?_outside outside

theorem lt_size_of_lt_windowStop {rows index : Nat} (below : index < s.windowStop rows) :
    index < s.machine.memory.size :=
  Nat.lt_of_lt_of_le below (Nat.min_le_right _ _)

theorem mem_window_iff {rows : Nat} {row : WindowRow} :
    row ∈ s.window rows ↔
      ∃ index, s.windowStart rows ≤ index ∧ index < s.windowStop rows ∧ s.cellRow index = row := by
  simp only [window_eq, List.mem_map, List.mem_range'_1, and_assoc]
  refine exists_congr fun index => and_congr_right fun reached => and_congr_left fun _ => ?_
  omega

theorem getElem?_window_eq_some_iff {rows i : Nat} {row : WindowRow} :
    (s.window rows)[i]? = some row ↔
      s.windowStart rows + i < s.windowStop rows ∧ s.cellRow (s.windowStart rows + i) = row := by
  rw [window_eq, List.getElem?_map]
  by_cases below : s.windowStart rows + i < s.windowStop rows
  · rw [List.getElem?_range' (by omega)]
    simp [below]
  · rw [List.getElem?_eq_none (by rw [List.length_range']; omega)]
    simp [below]

theorem addresses_window (s : Session) (rows : Nat) :
    (s.window rows).map (·.address.toNat) =
      List.range' (s.windowStart rows) (s.windowStop rows - s.windowStart rows) := by
  rw [window_eq, List.map_map]
  refine (List.map_congr_left fun index member => ?_).trans (List.map_id _)
  obtain ⟨_, below⟩ := List.mem_range'_1.1 member
  have below : index < s.windowStop rows := by omega
  exact toNat_address_cellRow (lt_size_of_lt_windowStop below)

theorem read_of_mem_window {rows : Nat} {row : WindowRow} (member : row ∈ s.window rows) :
    ∃ word, s.machine.memory.read row.address = .ok word ∧ row.text = disassemble word := by
  obtain ⟨index, _, below, rfl⟩ := mem_window_iff.1 member
  exact ⟨_, read_cellRow (lt_size_of_lt_windowStop below), rfl⟩

theorem counter_lt_windowStop {rows : Nat} (shown : 1 ≤ rows)
    (inside : s.machine.processor.pc.toNat < s.machine.memory.size) :
    s.machine.processor.pc.toNat < s.windowStop rows := by
  unfold windowStop windowStart
  omega

/-- How far the program counter stands from the beginning of the window. -/
theorem windowStart_add (s : Session) (rows : Nat) :
    s.windowStart rows + min s.machine.processor.pc.toNat (rows / 2) =
      s.machine.processor.pc.toNat := by
  unfold windowStart
  omega

theorem current_iff_of_getElem? {rows i : Nat} {row : WindowRow}
    (listed : (s.window rows)[i]? = some row) :
    row.current = true ↔ i = min s.machine.processor.pc.toNat (rows / 2) := by
  obtain ⟨below, rfl⟩ := getElem?_window_eq_some_iff.1 listed
  have here := windowStart_add s rows
  rw [current_cellRow_iff (lt_size_of_lt_windowStop below)]
  omega

theorem current_of_mem_window {rows : Nat} {row : WindowRow} (member : row ∈ s.window rows)
    (current : row.current = true) :
    1 ≤ rows ∧ s.machine.processor.pc.toNat < s.machine.memory.size := by
  obtain ⟨index, reached, below, rfl⟩ := mem_window_iff.1 member
  have inside := lt_size_of_lt_windowStop below
  have here := (current_cellRow_iff inside).1 current
  unfold windowStop at below
  omega

/-- The window shows the cells from `start` to `stop` in their order and without a gap, each with its assembly
text. If the program counter stands in memory and there are rows at all, exactly one of them is marked: the
one with the address of the program counter, which is half a window behind the beginning or, near address
zero, less. Else no row is marked. -/
theorem window_shows_counter (s : Session) (rows : Nat) :
    let pc := s.machine.processor.pc
    let size := s.machine.memory.size
    let start := pc.toNat - rows / 2
    let stop := min (start + rows) size
    (s.window rows).map (·.address.toNat) = List.range' start (stop - start) ∧
    (∀ row ∈ s.window rows, ∃ word, s.machine.memory.read row.address = .ok word ∧
      row.text = disassemble word) ∧
    (1 ≤ rows → pc.toNat < size → ∃ row, (s.window rows)[min pc.toNat (rows / 2)]? = some row ∧
      row.address = pc ∧ ∀ i other, (s.window rows)[i]? = some other →
        (other.current = true ↔ i = min pc.toNat (rows / 2))) ∧
    (¬ (1 ≤ rows ∧ pc.toNat < size) → ∀ row ∈ s.window rows, row.current = false) := by
  intro pc size start stop
  refine ⟨addresses_window s rows, fun row => read_of_mem_window, fun shown inside => ?_,
    fun hidden row member => ?_⟩
  · have here := windowStart_add s rows
    refine ⟨s.cellRow pc.toNat, getElem?_window_eq_some_iff.2 ?_,
      UInt64.toNat_inj.1 (toNat_address_cellRow inside), fun i other => current_iff_of_getElem?⟩
    rw [here]
    exact ⟨counter_lt_windowStop shown inside, rfl⟩
  · exact Bool.eq_false_iff.2 fun current => hidden (current_of_mem_window member current)

/-- A session whose program counter stands at the last of five cells. -/
def atLastCell : Session where
  machine :=
    { processor := { registers := Registers.cleared.set Roles.standard.pc 4 }
      memory := ⟨#[0, 0, 0, encode .nop 0 0 0, encode .halt 0 0 0], by decide⟩
      devices := {} }
  program := []
  loadAddress := 0

/-- Of three rows the last one has no cell, and the one in the middle is marked. -/
theorem atLastCell_marked :
    (atLastCell.window 3).map (·.address.toNat) = [3, 4] ∧
      ∃ row, (atLastCell.window 3)[1]? = some row ∧ row.address = 4 ∧ row.current = true := by
  obtain ⟨addresses, _, marked, _⟩ := window_shows_counter atLastCell 3
  obtain ⟨row, listed, address, current⟩ := marked (by decide) (by decide)
  exact ⟨addresses, row, listed, address, (current 1 row listed).2 rfl⟩

end Debugger.Session

end RegisterMachine

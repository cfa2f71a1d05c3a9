import RegisterMachine.Proofs.Machine.Strings

/-! # Loading into flat memory

What the cells hold after a program was copied into them: what stood in front of the program, the
program, and what stood behind it (`toList_overwrite`). A string that was loaded is read back up to its
first zero byte, whatever memory held before (`stringFrom_loadString`).
-/

namespace RegisterMachine.Memory

theorem toList_overwrite {cells : Array Word} {start : Nat} {words : List Word}
    (fits : start + words.length ≤ cells.size) :
    (overwrite cells start words).toList =
      cells.toList.take start ++ words ++ cells.toList.drop (start + words.length) := by
  induction words generalizing cells start with
  | nil => simp [overwrite]
  | cons word words inductionHypothesis =>
    simp only [List.length_cons] at fits
    have inside : start < cells.toList.length := by
      rw [Array.length_toList]
      omega
    have rest : start + 1 + words.length ≤ (cells.setIfInBounds start word).size := by
      rw [Array.size_setIfInBounds]
      omega
    -- The cell just written is the last one in front of the rest of the program.
    have front : (cells.toList.set start word).take (start + 1) =
        cells.toList.take start ++ [word] := by
      rw [List.take_add_one, List.take_set_of_le (Nat.le_refl start), List.getElem?_set_self inside]
      rfl
    have behind : (cells.toList.set start word).drop (start + 1 + words.length) =
        cells.toList.drop (start + (words.length + 1)) := by
      rw [List.drop_set_of_lt (by omega)]
      congr 1
      omega
    rw [overwrite, inductionHypothesis rest, Array.toList_setIfInBounds, front, behind]
    simp

/-- A program that is accepted fits, and it then stands at its address. -/
theorem toList_loadProgram {m m' : Memory} {start : Word} {program : List Word}
    (loaded : m.loadProgram start program = (.ok (), m')) (nonempty : program ≠ []) :
    m'.cells.toList = m.cells.toList.take start.toNat ++ program ++
      m.cells.toList.drop (start.toNat + program.length) ∧
      start.toNat + program.length ≤ m.size := by
  unfold loadProgram at loaded
  split at loaded
  · rename_i room
    cases loaded
    have occupied : 0 < program.length := List.length_pos_iff.2 nonempty
    have fits : start.toNat + program.length ≤ m.cells.size := by
      unfold available at room
      omega
    exact ⟨toList_overwrite fits, fits⟩
  · cases loaded

variable {m m' : Memory} {start : Word} {bytes : List UInt8}

theorem bytesFrom_loadString (loaded : m.loadString start bytes = (.ok (), m')) :
    ∃ rest, m'.bytesFrom start.toNat = bytes ++ 0 :: rest := by
  obtain ⟨cells, fits⟩ := toList_loadProgram loaded (by simp)
  have front : (m.cells.toList.take start.toNat).length = start.toNat := by
    rw [List.length_take, Array.length_toList]
    exact Nat.min_eq_left (Nat.le_trans (Nat.le_add_right _ _) fits)
  have narrow : UInt64.toUInt8 ∘ UInt8.toUInt64 = id := by
    funext byte
    simp
  refine ⟨(m.cells.toList.drop (start.toNat + (bytes.length + 1))).map UInt64.toUInt8, ?_⟩
  rw [bytesFrom, cells, List.append_assoc, List.drop_append_of_le_length (Nat.le_of_eq front.symm),
    List.drop_of_length_le (Nat.le_of_eq front)]
  simp [narrow]

theorem stringFrom_loadString (loaded : m.loadString start bytes = (.ok (), m')) :
    m'.stringFrom start.toNat = bytes.takeWhile (· != 0) ∧ m'.Terminated start.toNat := by
  obtain ⟨rest, shown⟩ := bytesFrom_loadString loaded
  constructor
  · rw [stringFrom, shown, List.takeWhile_append]
    split
    · rename_i whole
      -- The string is all of the bytes, and behind them stands the zero.
      rw [(List.takeWhile_prefix _).eq_of_length whole]
      simp
    · rfl
  · rw [terminated_iff_mem, shown]
    simp

end RegisterMachine.Memory

import RegisterMachine.Text.Blank

/-! # Lines of a text

A line feed between two texts makes their lines follow one another (`lines_append`), whatever the first
one ends in. A text has one line more than it has line feeds.
-/

namespace RegisterMachine.Text

theorem lines_ne_nil (text : List Char) : lines text ≠ [] := by
  cases text with
  | nil => exact List.cons_ne_nil _ _
  | cons c rest =>
    unfold lines
    split
    · exact List.cons_ne_nil _ _
    · split <;> exact List.cons_ne_nil _ _

theorem lines_cons {c : Char} (plain : c ≠ '\n') {rest line : List Char} {others : List (List Char)}
    (split : lines rest = line :: others) : lines (c :: rest) = (c :: line) :: others := by
  rw [lines, if_neg plain, split]

theorem lines_append (first second : List Char) :
    lines (first ++ '\n' :: second) = lines first ++ lines second := by
  induction first with
  | nil => rfl
  | cons c first inductionHypothesis =>
    by_cases feed : c = '\n'
    · simp only [List.cons_append, lines, feed, if_true, inductionHypothesis]
    · obtain ⟨line, others, split⟩ := List.exists_cons_of_ne_nil (lines_ne_nil first)
      rw [split] at inductionHypothesis
      rw [List.cons_append, lines_cons feed inductionHypothesis, lines_cons feed split]
      rfl

theorem length_lines (text : List Char) : (lines text).length = text.count '\n' + 1 := by
  induction text with
  | nil => rfl
  | cons c rest inductionHypothesis =>
    by_cases feed : c = '\n'
    · simp [lines, feed, inductionHypothesis]
    · obtain ⟨line, others, split⟩ := List.exists_cons_of_ne_nil (lines_ne_nil rest)
      rw [lines_cons feed split, List.count_cons_of_ne feed, ← inductionHypothesis, split]
      rfl

theorem lines_of_single {line : List Char} (single : '\n' ∉ line) : lines line = [line] := by
  induction line with
  | nil => rfl
  | cons c line inductionHypothesis =>
    obtain ⟨first, others⟩ := List.ne_and_not_mem_of_not_mem_cons single
    exact lines_cons first.symm (inductionHypothesis others)

theorem single_of_mem_lines {text line : List Char} (member : line ∈ lines text) : '\n' ∉ line := by
  induction text generalizing line with
  | nil =>
    rw [List.mem_singleton.1 member]
    exact List.not_mem_nil
  | cons c rest inductionHypothesis =>
    by_cases feed : c = '\n'
    · rw [lines, if_pos feed, List.mem_cons] at member
      obtain rfl | member := member
      · exact List.not_mem_nil
      · exact inductionHypothesis member
    · obtain ⟨first, others, split⟩ := List.exists_cons_of_ne_nil (lines_ne_nil rest)
      rw [lines_cons feed split, List.mem_cons] at member
      rw [split] at inductionHypothesis
      obtain rfl | member := member
      · rw [List.mem_cons, not_or]
        exact ⟨Ne.symm feed, inductionHypothesis List.mem_cons_self⟩
      · exact inductionHypothesis (List.mem_cons_of_mem _ member)

end RegisterMachine.Text

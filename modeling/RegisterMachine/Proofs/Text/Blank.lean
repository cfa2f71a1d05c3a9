import Mathlib.Data.List.TakeWhile
import RegisterMachine.Text.Blank

/-! # Texts without the blanks around them

Trimming takes the blanks at both ends away and nothing else: every text is its trimmed text between
blanks (`exists_trim`), and there is no other way to split it like this (`trim_append`). So a trimmed text
is trimmed already (`trim_trim`).
-/

namespace RegisterMachine.Text

theorem trimEnd_append {text blanks : List Char} (last : ∀ c ∈ text.getLast?, isBlank c = false)
    (blank : ∀ c ∈ blanks, isBlank c = true) : trimEnd (text ++ blanks) = text := by
  have reversed : ∀ c ∈ blanks.reverse, isBlank c = true := fun c member =>
    blank c (List.mem_reverse.1 member)
  rw [trimEnd, List.reverse_append, List.dropWhile_append_of_pos reversed]
  rw [← List.head?_reverse] at last
  cases ends : text.reverse with
  | nil => rw [List.reverse_eq_nil_iff.1 ends]; rfl
  | cons c others =>
    rw [ends] at last
    rw [List.dropWhile_cons_of_neg (by simp [last c rfl]), ← ends, List.reverse_reverse]

theorem trim_append {left code right : List Char} (first : ∀ c ∈ code.head?, isBlank c = false)
    (last : ∀ c ∈ code.getLast?, isBlank c = false) (blank : ∀ c ∈ left ++ right, isBlank c = true) :
    trim (left ++ code ++ right) = code := by
  have inFront : ∀ c ∈ left, isBlank c = true := fun c member =>
    blank c (List.mem_append_left _ member)
  have behind : ∀ c ∈ right, isBlank c = true := fun c member =>
    blank c (List.mem_append_right _ member)
  rw [trim, List.append_assoc, List.dropWhile_append_of_pos inFront]
  cases code with
  | nil =>
    rw [List.nil_append, List.dropWhile_eq_nil_iff.2 behind]
    rfl
  | cons c code =>
    have solid : ¬ isBlank c = true := by simp [first c rfl]
    rw [List.cons_append, List.dropWhile_cons_of_neg solid, ← List.cons_append]
    exact trimEnd_append last behind

theorem exists_trimEnd (text : List Char) :
    ∃ blanks, text = trimEnd text ++ blanks ∧ (∀ c ∈ blanks, isBlank c = true) ∧
      ∀ c ∈ (trimEnd text).getLast?, isBlank c = false := by
  refine ⟨(text.reverse.takeWhile isBlank).reverse, ?_, ?_, ?_⟩
  · rw [trimEnd, ← List.reverse_append, List.takeWhile_append_dropWhile, List.reverse_reverse]
  · intro c member
    exact List.mem_takeWhile_imp (List.mem_reverse.1 member)
  · intro c ends
    rw [trimEnd, List.getLast?_reverse] at ends
    have solid := List.head?_dropWhile_not isBlank text.reverse
    rw [Option.mem_def.1 ends] at solid
    exact solid

theorem exists_trim (text : List Char) :
    ∃ left right, text = left ++ trim text ++ right ∧ (∀ c ∈ left ++ right, isBlank c = true) ∧
      (∀ c ∈ (trim text).head?, isBlank c = false) ∧ ∀ c ∈ (trim text).getLast?, isBlank c = false := by
  obtain ⟨right, kept, behind, last⟩ := exists_trimEnd (text.dropWhile isBlank)
  refine ⟨text.takeWhile isBlank, right, ?_, ?_, ?_, last⟩
  · rw [trim, List.append_assoc, ← kept, List.takeWhile_append_dropWhile]
  · intro c member
    rcases List.mem_append.1 member with inFront | inBack
    · exact List.mem_takeWhile_imp inFront
    · exact behind c inBack
  · intro c starts
    have solid := List.head?_dropWhile_not isBlank text
    have kernel : (trimEnd (text.dropWhile isBlank)).head? = some c := starts
    rw [kept, List.head?_append, kernel] at solid
    exact solid

theorem bare_of_solid {text : List Char} (solid : ∀ c ∈ text, isBlank c = false) :
    (∀ c ∈ text.head?, isBlank c = false) ∧ ∀ c ∈ text.getLast?, isBlank c = false :=
  ⟨fun c starts => solid c (List.mem_of_mem_head? starts),
    fun c ends => solid c (List.mem_of_getLast? ends)⟩

theorem trim_eq_self {text : List Char} (first : ∀ c ∈ text.head?, isBlank c = false)
    (last : ∀ c ∈ text.getLast?, isBlank c = false) : trim text = text := by
  have bare : trim ([] ++ text ++ []) = text := trim_append first last nofun
  rwa [List.nil_append, List.append_nil] at bare

theorem trim_trim (text : List Char) : trim (trim text) = trim text := by
  obtain ⟨_, _, _, _, first, last⟩ := exists_trim text
  exact trim_eq_self first last

theorem trim_subset (text : List Char) : trim text ⊆ text := by
  obtain ⟨left, right, kept, _⟩ := exists_trim text
  intro c member
  rw [kept]
  exact List.mem_append_left right (List.mem_append_right left member)

end RegisterMachine.Text

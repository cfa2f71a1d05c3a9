import Mathlib.Data.List.TakeWhile

/-! # Texts with marks between them

What stands in front of the first mark in a text is determined by the text, and so is what stands behind it
(`append_cons_inj`). So texts without the mark can be told from what they are when they are joined, as far as
their number is known (`intercalate_inj`).
-/

namespace RegisterMachine.Text

section Mark

variable {mark : Char} {first rest : List Char} (fresh : mark ∉ first)

include fresh

theorem append_cons_inj {other rest' : List Char} (fresh' : mark ∉ other) :
    first ++ mark :: rest = other ++ mark :: rest' ↔ first = other ∧ rest = rest' := by
  constructor
  · intro same
    induction first generalizing other with
    | nil =>
      cases other with
      | nil => exact ⟨rfl, (List.cons.inj same).2⟩
      | cons c other => exact absurd ((List.cons.inj same).1 ▸ List.mem_cons_self) fresh'
    | cons c first inductionHypothesis =>
      cases other with
      | nil => exact absurd ((List.cons.inj same).1 ▸ List.mem_cons_self) fresh
      | cons d other =>
        obtain ⟨head, tail⟩ := List.cons.inj same
        obtain ⟨front, behind⟩ := inductionHypothesis (List.not_mem_of_not_mem_cons fresh)
          (List.not_mem_of_not_mem_cons fresh') tail
        exact ⟨by rw [head, front], behind⟩
  · rintro ⟨rfl, rfl⟩
    rfl

theorem takeWhile_append_mark (behind : ∀ c ∈ rest.head?, c = mark) :
    (first ++ rest).takeWhile (· != mark) = first := by
  have plain : ∀ c ∈ first, (c != mark) = true := by
    intro c member
    rw [bne_iff_ne]
    rintro rfl
    exact fresh member
  rw [List.takeWhile_append_of_pos plain]
  cases rest with
  | nil => exact List.append_nil first
  | cons c rest => simp [behind c rfl]

end Mark

theorem not_mem_intercalate {separator : String} {c : Char} (outside : c ∉ separator.toList)
    {texts : List String} (fresh : ∀ text ∈ texts, c ∉ text.toList) :
    c ∉ (separator.intercalate texts).toList := by
  match texts with
  | [] => simp
  | [text] => simpa using fresh
  | text :: next :: texts =>
    have others : c ∉ (separator.intercalate (next :: texts)).toList :=
      not_mem_intercalate outside fun text member => fresh text (List.mem_cons_of_mem _ member)
    rw [String.intercalate_cons_cons]
    simp only [String.toList_append, List.mem_append, not_or]
    exact ⟨⟨fresh text List.mem_cons_self, outside⟩, others⟩

/-- It is enough that the texts do not have the character in them with which the separator begins. -/
theorem intercalate_inj {separator : String} {mark : Char} {tail : List Char}
    (begins : separator.toList = mark :: tail) {texts others : List String}
    (fresh : ∀ text ∈ texts, mark ∉ text.toList) (fresh' : ∀ text ∈ others, mark ∉ text.toList)
    (count : texts.length = others.length)
    (same : separator.intercalate texts = separator.intercalate others) : texts = others := by
  match texts, others, count with
  | [], [], _ => rfl
  | [text], [other], _ =>
    rw [String.intercalate_singleton, String.intercalate_singleton] at same
    rw [same]
  | text :: next :: texts, other :: next' :: others, count =>
    rw [List.forall_mem_cons] at fresh fresh'
    rw [String.intercalate_cons_cons, String.intercalate_cons_cons] at same
    have split := congrArg String.toList same
    simp only [String.toList_append, begins, List.append_assoc, List.cons_append] at split
    obtain ⟨front, behind⟩ := (append_cons_inj fresh.1 fresh'.1).1 split
    have rest : next :: texts = next' :: others :=
      intercalate_inj begins fresh.2 fresh'.2 (Nat.succ.inj count)
        (String.toList_inj.1 (List.append_cancel_left behind))
    rw [String.toList_inj.1 front, rest]

end RegisterMachine.Text

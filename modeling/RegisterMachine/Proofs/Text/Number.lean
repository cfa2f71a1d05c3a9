import Mathlib.Data.Nat.Digits.Defs
import RegisterMachine.Text.Integer

/-! # Which texts are numbers

Digits denote a number (`Denotes`), or they begin with digits that denote too great a number, whatever
follows them (`Overflows`). Reading digits from left to right tells these apart from each other and from
all other texts (`readDigits_eq_ok_iff`, `readDigits_eq_tooLarge_iff`): a value that has become too great
never becomes smaller again, so that it does not matter at which digit this is noticed.
-/

namespace RegisterMachine.Text

/-! ## Digits and what they denote -/

/-- The character is a digit of the radix with this value. Letters stand in either case. -/
def HasValue (radix : Nat) (c : Char) (value : Nat) : Prop :=
  value < radix ∧ (c = value.digitChar ∨ c = value.digitChar.toUpper)

/-- The digits denote the number, with the most significant one first. -/
def Denotes (radix : Nat) (digits : List Char) (n : Nat) : Prop :=
  ∃ values, List.Forall₂ (HasValue radix) digits values ∧ n = Nat.ofDigits radix values.reverse

def NoDigitAhead (radix : Nat) (text : List Char) : Prop :=
  ∀ c ∈ text.head?, ∀ value, ¬ HasValue radix c value

/-- The digits up to the first character that is none denote a number that does not fit in a word. -/
def Overflows (radix : Nat) (text : List Char) : Prop :=
  ∃ run rest n, text = run ++ rest ∧ NoDigitAhead radix rest ∧ Denotes radix run n ∧
    UInt64.size ≤ n

/-- What holds of all characters of a range, each with its number in the range, holds of every character
between the ends. -/
theorem of_range {p : Char → Nat → Prop} {c first last : Char} {base value : Nat}
    (range : first ≤ c ∧ c ≤ last) (offset : some (c.toNat - first.toNat + base) = some value)
    (holds : ∀ k : Fin (last.toNat - first.toNat + 1),
      p (Char.ofNat (first.toNat + k)) (k + base)) : p c value := by
  have low : first.toNat ≤ c.toNat := range.1
  have high : c.toNat ≤ last.toNat := range.2
  have found := holds ⟨c.toNat - first.toNat, by omega⟩
  rw [Nat.add_sub_cancel' low, Char.ofNat_toNat] at found
  rwa [← Option.some.inj offset]

theorem digitValue?_eq_some_iff {radix value : Nat} {c : Char} (most : radix ≤ 16) :
    digitValue? radix c = some value ↔ HasValue radix c value := by
  let spells (c : Char) (value : Nat) : Prop := c = value.digitChar ∨ c = value.digitChar.toUpper
  constructor
  · intro read
    simp only [digitValue?, Option.filter_eq_some_iff, decide_eq_true_eq] at read
    obtain ⟨read, small⟩ := read
    refine ⟨small, ?_⟩
    split at read
    · rename_i range
      have offset : some (c.toNat - '0'.toNat + 0) = some value := read
      exact of_range (p := spells) range offset (by decide)
    · split at read
      · rename_i range
        exact of_range (p := spells) range read (by decide)
      · split at read
        · rename_i range
          exact of_range (p := spells) range read (by decide)
        · cases read
  · rintro ⟨small, spelled⟩
    have table : ∀ value : Fin 16, digitValue? 16 value.val.digitChar = some value.val ∧
        digitValue? 16 value.val.digitChar.toUpper = some value.val := by
      decide
    obtain ⟨lower, upper⟩ := table ⟨value, by omega⟩
    have widest : digitValue? 16 c = some value := by
      rcases spelled with rfl | rfl
      · exact lower
      · exact upper
    -- A smaller radix only refuses more digits.
    simp only [digitValue?, Option.filter_eq_some_iff, decide_eq_true_eq] at widest ⊢
    exact ⟨widest.1, small⟩

theorem digitValue?_eq_none {radix : Nat} {c : Char} (most : radix ≤ 16)
    (strange : ∀ value, ¬ HasValue radix c value) : digitValue? radix c = none := by
  rw [Option.eq_none_iff_forall_ne_some]
  intro value read
  exact strange value ((digitValue?_eq_some_iff most).1 read)

/-! ## Reading digits -/

def accumulate (radix value : Nat) (values : List Nat) : Nat :=
  values.foldl (fun value digit => value * radix + digit) value

theorem ofDigits_reverse (radix : Nat) (values : List Nat) :
    Nat.ofDigits radix values.reverse = accumulate radix 0 values := by
  rw [accumulate, List.foldl_eq_foldr_reverse, Nat.ofDigits_eq_foldr]
  congr 1
  funext digit value
  rw [Nat.cast_id, Nat.mul_comm, Nat.add_comm]

theorem le_accumulate {radix : Nat} (positive : 0 < radix) (value : Nat) (values : List Nat) :
    value ≤ accumulate radix value values := by
  induction values generalizing value with
  | nil => exact Nat.le_refl value
  | cons digit values inductionHypothesis =>
    have grown : value ≤ value * radix + digit :=
      Nat.le_add_right_of_le (Nat.le_mul_of_pos_right value positive)
    exact grown.trans (inductionHypothesis _)

section Reading

variable {radix : Nat} (positive : 0 < radix) (most : radix ≤ 16)

include positive most

theorem readDigits_run {run : List Char} {values : List Nat}
    (spelled : List.Forall₂ (HasValue radix) run values) (rest : List Char) {value : Nat}
    (fits : value < UInt64.size) :
    readDigits radix value (run ++ rest) =
      if accumulate radix value values < UInt64.size
      then readDigits radix (accumulate radix value values) rest
      else .error .tooLarge := by
  induction spelled generalizing value with
  | nil => exact (if_pos fits).symm
  | @cons c digit run values first others inductionHypothesis =>
    have read := (digitValue?_eq_some_iff most).2 first
    simp only [List.cons_append, readDigits, read]
    split
    · rename_i small
      exact inductionHypothesis small
    · rename_i large
      -- The value is too great already, and it is no smaller at the end of the digits.
      have growing := le_accumulate positive (value * radix + digit) values
      have exceeded : ¬ accumulate radix value (digit :: values) < UInt64.size := fun small =>
        large (growing.trans_lt small)
      rw [if_neg exceeded]

theorem readDigits_leading {run : List Char} {n : Nat} (denoted : Denotes radix run n)
    (rest : List Char) :
    readDigits radix 0 (run ++ rest) =
      if n < UInt64.size then readDigits radix n rest else .error .tooLarge := by
  obtain ⟨values, spelled, rfl⟩ := denoted
  rw [ofDigits_reverse]
  exact readDigits_run positive most spelled rest (by decide)

omit positive most in
theorem exists_run (radix : Nat) (text : List Char) :
    ∃ run rest n, text = run ++ rest ∧ NoDigitAhead radix rest ∧ Denotes radix run n := by
  suffices ∃ run rest values, text = run ++ rest ∧ NoDigitAhead radix rest ∧
      List.Forall₂ (HasValue radix) run values by
    obtain ⟨run, rest, values, split, ahead, spelled⟩ := this
    exact ⟨run, rest, _, split, ahead, values, spelled, rfl⟩
  induction text with
  | nil => exact ⟨[], [], [], rfl, by simp [NoDigitAhead], .nil⟩
  | cons c text inductionHypothesis =>
    by_cases digit : ∃ value, HasValue radix c value
    · obtain ⟨value, first⟩ := digit
      obtain ⟨run, rest, values, rfl, ahead, spelled⟩ := inductionHypothesis
      exact ⟨c :: run, rest, value :: values, rfl, ahead, .cons first spelled⟩
    · refine ⟨[], c :: text, [], rfl, ?_, .nil⟩
      intro d member value found
      rw [List.head?_cons, Option.mem_some_iff] at member
      exact digit ⟨value, member ▸ found⟩

omit positive in
theorem readDigits_of_noDigitAhead {c : Char} {rest : List Char}
    (ahead : NoDigitAhead radix (c :: rest)) (n : Nat) :
    readDigits radix n (c :: rest) = .error .invalidDigit := by
  have strange := digitValue?_eq_none most (ahead c rfl)
  simp only [readDigits, strange]

theorem readDigits_eq_ok_iff {digits : List Char} {n : Nat} :
    readDigits radix 0 digits = .ok n ↔ Denotes radix digits n ∧ n < UInt64.size := by
  constructor
  · intro read
    obtain ⟨run, rest, value, rfl, ahead, denoted⟩ := exists_run radix digits
    rw [readDigits_leading positive most denoted] at read
    split at read
    · rename_i fits
      cases rest with
      | nil =>
        obtain rfl := Except.ok.inj read
        rw [List.append_nil]
        exact ⟨denoted, fits⟩
      | cons c rest =>
        rw [readDigits_of_noDigitAhead most ahead] at read
        cases read
    · cases read
  · rintro ⟨denoted, fits⟩
    have read := readDigits_leading positive most denoted []
    rw [List.append_nil, if_pos fits] at read
    exact read

theorem readDigits_eq_tooLarge_iff {text : List Char} :
    readDigits radix 0 text = .error .tooLarge ↔ Overflows radix text := by
  constructor
  · intro read
    obtain ⟨run, rest, n, rfl, ahead, denoted⟩ := exists_run radix text
    refine ⟨run, rest, n, rfl, ahead, denoted, Nat.le_of_not_lt fun fits => ?_⟩
    rw [readDigits_leading positive most denoted, if_pos fits] at read
    cases rest with
    | nil => cases read
    | cons c rest =>
      rw [readDigits_of_noDigitAhead most ahead] at read
      cases read
  · rintro ⟨run, rest, n, rfl, _, denoted, great⟩
    rw [readDigits_leading positive most denoted, if_neg (Nat.not_lt.2 great)]

omit positive most in
theorem readDigits_ne_empty (radix value : Nat) (text : List Char) :
    readDigits radix value text ≠ .error .empty := by
  induction text generalizing value with
  | nil => nofun
  | cons c text inductionHypothesis =>
    unfold readDigits
    split
    · nofun
    · split
      · exact inductionHypothesis _
      · nofun

end Reading

/-! ## Signs -/

def Signed (text digits : List Char) : Prop :=
  text = digits ∨ text = '+' :: digits

/-- The text is digits that denote the word, with or without a plus sign. -/
def IsNumeral (radix : Nat) (text : List Char) (word : UInt64) : Prop :=
  ∃ digits, Signed text digits ∧ digits ≠ [] ∧ Denotes radix digits word.toNat

/-- The text begins with digits that denote more than a word holds, with or without a plus sign. -/
def IsExcessive (radix : Nat) (text : List Char) : Prop :=
  ∃ digits, Signed text digits ∧ Overflows radix digits

def unsigned : List Char → List Char
  | '+' :: digits => digits
  | digits => digits

theorem readWord_eq (radix : Nat) (text : List Char) :
    readWord radix text =
      if text = [] then .error .empty
      else if unsigned text = [] then .error .invalidDigit
      else (readDigits radix 0 (unsigned text)).map UInt64.ofNat := by
  unfold readWord
  split
  · rfl
  · rfl
  · rename_i digits some
    have behindSign : unsigned ('+' :: digits) = digits := rfl
    have nonempty : digits ≠ [] := some
    rw [behindSign, if_neg (List.cons_ne_nil _ _), if_neg nonempty]
  · rename_i nonempty _ plain
    have same : unsigned text = text := by
      unfold unsigned
      split
      · exact (plain _ rfl).elim
      · rfl
    rw [same, if_neg nonempty, if_neg nonempty]

/-- The sign is not a digit, so that it does not matter whether it is taken off where digits are read. -/
theorem exists_signed_iff {reads : List Char → Prop} (text : List Char)
    (strange : ∀ rest, ¬ reads ('+' :: rest)) :
    (∃ digits, Signed text digits ∧ reads digits) ↔ reads (unsigned text) := by
  constructor
  · rintro ⟨digits, rfl | rfl, read⟩
    · unfold unsigned
      split
      · exact absurd read (strange _)
      · exact read
    · exact read
  · intro read
    refine ⟨unsigned text, ?_, read⟩
    unfold unsigned
    split
    · exact .inr rfl
    · exact .inl rfl

theorem readWord_eq_empty_iff {radix : Nat} {text : List Char} :
    readWord radix text = .error .empty ↔ text = [] := by
  rw [readWord_eq]
  split
  · rename_i empty
    simp [empty]
  · rename_i nonempty
    split
    · simp [nonempty]
    · cases read : readDigits radix 0 (unsigned text) with
      | ok n => simp [Except.map, nonempty]
      | error e =>
        have other : e ≠ .empty := by
          rintro rfl
          exact readDigits_ne_empty radix 0 _ read
        simp [Except.map, nonempty, other]

section Words

variable {radix : Nat} (positive : 0 < radix) (most : radix ≤ 16)

include positive most

theorem map_readDigits_eq_ok_iff {digits : List Char} {word : UInt64} :
    (readDigits radix 0 digits).map UInt64.ofNat = .ok word ↔ Denotes radix digits word.toNat := by
  have fits : word.toNat < UInt64.size := word.toNat_lt
  have accepted : readDigits radix 0 digits = .ok word.toNat ↔
      Denotes radix digits word.toNat ∧ word.toNat < UInt64.size :=
    readDigits_eq_ok_iff positive most
  rw [and_iff_left fits] at accepted
  rw [← accepted]
  constructor
  · intro read
    cases digitsRead : readDigits radix 0 digits with
    | error e =>
      rw [digitsRead] at read
      cases read
    | ok n =>
      have small := ((readDigits_eq_ok_iff positive most).1 digitsRead).2
      rw [digitsRead] at read
      obtain rfl := Except.ok.inj read
      exact congrArg Except.ok (UInt64.toNat_ofNat_of_lt' small).symm
  · intro read
    rw [read]
    exact congrArg Except.ok UInt64.ofNat_toNat

omit positive in
theorem readDigits_plus (rest : List Char) :
    readDigits radix 0 ('+' :: rest) = .error .invalidDigit := by
  refine readDigits_of_noDigitAhead most ?_ 0
  rintro _ ⟨⟩ value found
  have read := (digitValue?_eq_some_iff most).2 found
  simp [digitValue?] at read

theorem readWord_eq_ok_iff {text : List Char} {word : UInt64} :
    readWord radix text = .ok word ↔ IsNumeral radix text word := by
  have strange : ∀ rest, ¬ ('+' :: rest ≠ [] ∧ Denotes radix ('+' :: rest) word.toNat) := by
    rintro rest ⟨_, denoted⟩
    have read := (map_readDigits_eq_ok_iff positive most).2 denoted
    rw [readDigits_plus most] at read
    cases read
  rw [IsNumeral, exists_signed_iff text strange, readWord_eq, ← map_readDigits_eq_ok_iff positive most]
  split
  · rename_i empty
    simp [empty, unsigned]
  · split
    · rename_i lone
      simp [lone]
    · rename_i some
      simp [some]

theorem readWord_eq_tooLarge_iff {text : List Char} :
    readWord radix text = .error .tooLarge ↔ IsExcessive radix text := by
  -- A sign is not a digit, so the digits in front of it are none and denote zero.
  have strange : ∀ rest, ¬ Overflows radix ('+' :: rest) := by
    intro rest great
    rw [← readDigits_eq_tooLarge_iff positive most, readDigits_plus most] at great
    cases great
  rw [IsExcessive, exists_signed_iff text strange, readWord_eq, ← readDigits_eq_tooLarge_iff positive most]
  have none : readDigits radix 0 [] = .ok 0 := rfl
  split
  · rename_i empty
    simp [empty, unsigned, none]
  · split
    · rename_i lone
      simp [lone, none]
    · cases readDigits radix 0 (unsigned text) <;> simp [Except.map]

/-- No digit is blamed in a text that is nothing, too great or a number. -/
theorem readWord_eq_invalidDigit_iff {text : List Char} :
    readWord radix text = .error .invalidDigit ↔
      text ≠ [] ∧ ¬ IsExcessive radix text ∧ ∀ word, ¬ IsNumeral radix text word := by
  simp only [ne_eq, ← @readWord_eq_empty_iff radix, ← readWord_eq_tooLarge_iff positive most,
    ← readWord_eq_ok_iff positive most]
  cases readWord radix text with
  | ok word => simp
  | error problem => cases problem <;> simp

end Words

end RegisterMachine.Text

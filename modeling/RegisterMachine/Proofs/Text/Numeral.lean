import RegisterMachine.Proofs.Text.Number
import RegisterMachine.Text.Blank
import RegisterMachine.Text.Numeral

/-! # Reading numerals back

A number that fits in a word is read back from its digits in any radix from 2 to 16
(`readDigits_toDigits`), also behind leading zeros. Digits are ordinary characters: none of them is a
blank, a sign, a separator or a mark (`Digit`). Different numbers have different numerals (`decimal_inj`,
`hexWord_inj`).
-/

namespace RegisterMachine.Text

/-! ## Digits -/

/-- The character is a hexadecimal digit as numbers are written. -/
def Digit (c : Char) : Prop :=
  ∃ value : Nat, value < 16 ∧ c = value.digitChar

instance (c : Char) : Decidable (Digit c) :=
  inferInstanceAs (Decidable (∃ value : Nat, value < 16 ∧ c = value.digitChar))

theorem Digit.of_forall {p : Char → Prop} (holds : ∀ value : Fin 16, p value.val.digitChar) {c : Char}
    (digit : Digit c) : p c := by
  obtain ⟨value, bound, rfl⟩ := digit
  exact holds ⟨value, bound⟩

theorem digit_of_mem_toDigits {radix n : Nat} {c : Char} (least : 2 ≤ radix) (most : radix ≤ 16)
    (member : c ∈ Nat.toDigits radix n) : Digit c := by
  -- The digits of a number are those of the number without its last digit, and that digit.
  induction n using Nat.strongRecOn with
  | ind n inductionHypothesis =>
    by_cases single : n < radix
    · rw [Nat.toDigits_of_lt_base single, List.mem_singleton] at member
      exact ⟨n, by omega, member⟩
    · rw [Nat.toDigits_of_base_le (by omega) (by omega), List.mem_append, List.mem_singleton] at member
      rcases member with earlier | last
      · exact inductionHypothesis _ (Nat.div_lt_self (by omega) (by omega)) earlier
      · exact ⟨n % radix, Nat.lt_of_lt_of_le (Nat.mod_lt _ (by omega)) most, last⟩

section Strange

variable {c : Char} (strange : ¬ Digit c)

include strange

theorem not_mem_toDigits {radix : Nat} (least : 2 ≤ radix) (most : radix ≤ 16) (n : Nat) :
    c ∉ Nat.toDigits radix n :=
  fun member => strange (digit_of_mem_toDigits least most member)

theorem not_mem_decimal (n : Nat) : c ∉ (decimal n).toList := by
  rw [decimal, String.toList_ofList]
  exact not_mem_toDigits strange (by decide) (by decide) n

end Strange

theorem digitValue?_digitChar {radix value : Nat} (most : radix ≤ 16) (bound : value < radix) :
    digitValue? radix value.digitChar = some value :=
  (digitValue?_eq_some_iff most).2 ⟨bound, .inl rfl⟩

/-! ## Numbers -/

theorem readDigits_append (radix value : Nat) (first last : List Char) :
    readDigits radix value (first ++ last) =
      (readDigits radix value first).bind fun value => readDigits radix value last := by
  induction first generalizing value with
  | nil => rfl
  | cons c first inductionHypothesis =>
    simp only [List.cons_append, readDigits]
    split
    · rfl
    · split
      · exact inductionHypothesis _
      · rfl

theorem readDigits_toDigits {radix n : Nat} (least : 2 ≤ radix) (most : radix ≤ 16)
    (fits : n < UInt64.size) : readDigits radix 0 (Nat.toDigits radix n) = .ok n := by
  -- Every value on the way is a quotient of the number, so none of them is too large either.
  induction n using Nat.strongRecOn with
  | ind n inductionHypothesis =>
    by_cases single : n < radix
    · rw [Nat.toDigits_of_lt_base single]
      simp only [readDigits, digitValue?_digitChar most single, Nat.zero_mul, Nat.zero_add, if_pos fits]
    · have smaller : n / radix < n := Nat.div_lt_self (by omega) (by omega)
      have remainder : n % radix < radix := Nat.mod_lt _ (by omega)
      have whole : n / radix * radix + n % radix = n := Nat.div_add_mod' n radix
      rw [Nat.toDigits_of_base_le (by omega) (by omega), readDigits_append,
        inductionHypothesis _ smaller (by omega)]
      simp only [Except.bind, readDigits, digitValue?_digitChar most remainder, whole, if_pos fits]

theorem decimal_inj {m n : Nat} : decimal m = decimal n ↔ m = n := by
  constructor
  · intro same
    have digits : Nat.toDigits 10 m = Nat.toDigits 10 n := String.ofList_injective same
    rw [← Nat.ofDigitChars_ten_toDigits (n := m), digits, Nat.ofDigitChars_ten_toDigits]
  · rintro rfl
    rfl

theorem readDigits_zeros {radix : Nat} (least : 2 ≤ radix) (most : radix ≤ 16) (count : Nat)
    (digits : List Char) :
    readDigits radix 0 (List.replicate count '0' ++ digits) = readDigits radix 0 digits := by
  have zero : digitValue? radix '0' = some 0 := @digitValue?_digitChar radix 0 most (by omega)
  induction count with
  | zero => rfl
  | succ count inductionHypothesis =>
    rw [List.replicate_succ, List.cons_append, readDigits, zero]
    simpa [UInt64.size] using inductionHypothesis

theorem readWord_of_digits {digits : List Char} (nonempty : digits ≠ [])
    (plain : ∀ c ∈ digits, Digit c) (radix : Nat) :
    readWord radix digits = (readDigits radix 0 digits).map UInt64.ofNat := by
  have unsigned : '+' ∉ digits := by
    intro member
    exact (plain '+' member).of_forall (p := (· ≠ '+')) (by decide) rfl
  unfold readWord
  split
  · exact absurd rfl nonempty
  · exact absurd (List.mem_singleton.2 rfl) unsigned
  · exact absurd List.mem_cons_self unsigned
  · rfl

theorem readWord_toDigits {radix : Nat} (least : 2 ≤ radix) (most : radix ≤ 16) (word : UInt64) :
    readWord radix (Nat.toDigits radix word.toNat) = .ok word := by
  rw [readWord_of_digits Nat.toDigits_ne_nil fun _ => digit_of_mem_toDigits least most,
    readDigits_toDigits least most word.toNat_lt]
  simp [Except.map]

/-! ## Words in hexadecimal -/

/-- The digits of a word behind the mark, with the zeros that fill them up. -/
def wordDigits (word : UInt64) : List Char :=
  List.replicate (16 - (Nat.toDigits 16 word.toNat).length) '0' ++ Nat.toDigits 16 word.toNat

theorem toList_hexWord (word : UInt64) :
    (hexWord word).toList = '0' :: 'x' :: wordDigits word := by
  simp [hexWord, hexPadded, padLeft, hexDigits, wordDigits]

theorem digit_of_mem_wordDigits {word : UInt64} {c : Char} (member : c ∈ wordDigits word) :
    Digit c := by
  rcases List.mem_append.1 member with zeros | digits
  · exact ⟨0, by decide, List.eq_of_mem_replicate zeros⟩
  · exact digit_of_mem_toDigits (by decide) (by decide) digits

theorem readWord_wordDigits (word : UInt64) : readWord 16 (wordDigits word) = .ok word := by
  have nonempty : wordDigits word ≠ [] := by
    simp [wordDigits, Nat.toDigits_ne_nil]
  rw [readWord_of_digits nonempty fun _ => digit_of_mem_wordDigits, wordDigits,
    readDigits_zeros (by decide) (by decide), readDigits_toDigits (by decide) (by decide) word.toNat_lt]
  simp [Except.map]

theorem hexWord_inj {first second : UInt64} : hexWord first = hexWord second ↔ first = second := by
  constructor
  · intro same
    have digits := congrArg String.toList same
    rw [toList_hexWord, toList_hexWord] at digits
    have read := readWord_wordDigits first
    rw [(List.cons.inj (List.cons.inj digits).2).2, readWord_wordDigits] at read
    exact (Except.ok.inj read).symm
  · rintro rfl
    rfl

/-- A property of the letters of hexadecimal words is one of the mark and of the digits. -/
theorem forall_mem_hexWord {p : Char → Prop} (word : UInt64) (mark : p 'x')
    (digits : ∀ value : Fin 16, p value.val.digitChar) : ∀ c ∈ (hexWord word).toList, p c := by
  intro c member
  rw [toList_hexWord, List.mem_cons, List.mem_cons] at member
  rcases member with rfl | rfl | member
  · exact digits 0
  · exact mark
  · exact (digit_of_mem_wordDigits member).of_forall digits

end RegisterMachine.Text

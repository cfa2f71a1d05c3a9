import RegisterMachine.Text.Utf8

/-! # Decoding what was encoded

Strict decoding reads back every text (`decode?_encode`). The characters are taken one at a time: the
bytes of a character, in front of any other bytes, are scanned as that character (`scan_encodeChar`).

The first byte of three or four can narrow the range of the second one. `lead_three` and `lead_four` say
that the second byte of a character is always in the range that its first byte leaves.
-/

namespace RegisterMachine.Text.Utf8

/-! ## One byte -/

theorem toNat_byte {n : Nat} (small : n < 256) : (UInt8.ofNat n).toNat = n :=
  UInt8.toNat_ofNat_of_lt small

theorem scan_start {byte : UInt8} {pending : Pending} (start : lead byte = .start pending)
    (rest : List UInt8) : scan none (byte :: rest) = scan (some pending) rest := by
  rw [scan, start]

theorem scan_last {p : Pending} {n : Nat} (last : p.after = 0) (small : n < 256)
    (low : p.low.toNat ≤ n) (high : n ≤ p.high.toNat) (rest : List UInt8) :
    scan (some p) (UInt8.ofNat n :: rest) =
      some (Char.ofNat (p.bits * 64 + (n - 0x80))) :: scan none rest := by
  have fits : p.low ≤ UInt8.ofNat n ∧ UInt8.ofNat n ≤ p.high := by
    simp only [UInt8.le_iff_toNat_le, toNat_byte small]
    exact ⟨low, high⟩
  simp only [scan, if_pos fits, last, toNat_byte small]

theorem scan_next {p : Pending} {after n : Nat} (more : p.after = after + 1) (small : n < 256)
    (low : p.low.toNat ≤ n) (high : n ≤ p.high.toNat) (rest : List UInt8) :
    scan (some p) (UInt8.ofNat n :: rest) =
      scan (some ⟨after, 0x80, 0xbf, p.bits * 64 + (n - 0x80)⟩) rest := by
  have fits : p.low ≤ UInt8.ofNat n ∧ UInt8.ofNat n ≤ p.high := by
    simp only [UInt8.le_iff_toNat_le, toNat_byte small]
    exact ⟨low, high⟩
  simp only [scan, if_pos fits, more, toNat_byte small]

/-! ## The first byte of a character -/

theorem lead_one {n : Nat} (bound : n < 0x80) : lead (UInt8.ofNat n) = .char (Char.ofNat n) := by
  simp only [lead, toNat_byte (by omega : n < 256), if_pos bound]

theorem lead_two {n : Nat} (least : 0x80 ≤ n) (most : n ≤ 0x7ff) :
    lead (UInt8.ofNat (n / 64 % 0x20 + 0xc0)) = .start ⟨0, 0x80, 0xbf, n / 64⟩ := by
  have first : n / 64 % 0x20 = n / 64 := by omega
  simp only [lead, first, toNat_byte (by omega : n / 64 + 0xc0 < 256)]
  rw [if_neg (by omega), if_neg (by omega), if_pos (by omega), Nat.add_sub_cancel]

theorem lead_three {n : Nat} (least : 0x800 ≤ n) (most : n ≤ 0xffff)
    (valid : n < 0xd800 ∨ 0xdfff < n) :
    ∃ low high, lead (UInt8.ofNat (n / 4096 % 0x10 + 0xe0)) = .start ⟨1, low, high, n / 4096⟩ ∧
      low.toNat ≤ n / 64 % 0x40 + 0x80 ∧ n / 64 % 0x40 + 0x80 ≤ high.toNat := by
  have first : n / 4096 % 0x10 = n / 4096 := by omega
  simp only [lead, first, toNat_byte (by omega : n / 4096 + 0xe0 < 256)]
  rw [if_neg (by omega), if_neg (by omega), if_neg (by omega)]
  -- A first byte without bits needs a large second byte, else two bytes would have been enough.
  by_cases overlong : n / 4096 = 0
  · rw [if_pos (by omega), overlong]
    exact ⟨_, _, rfl, by show 0xa0 ≤ _; omega, by show _ ≤ 0xbf; omega⟩
  rw [if_neg (by omega)]
  -- This first byte is shared with the surrogates, which are the upper half of its range.
  by_cases surrogate : n / 4096 = 13
  · rw [if_pos (by omega), surrogate]
    exact ⟨_, _, rfl, by show 0x80 ≤ _; omega, by show _ ≤ 0x9f; omega⟩
  rw [if_neg (by omega), if_pos (by omega), Nat.add_sub_cancel]
  exact ⟨_, _, rfl, by show 0x80 ≤ _; omega, by show _ ≤ 0xbf; omega⟩

theorem lead_four {n : Nat} (least : 0x10000 ≤ n) (most : n < 0x110000) :
    ∃ low high, lead (UInt8.ofNat (n / 262144 % 0x08 + 0xf0)) = .start ⟨2, low, high, n / 262144⟩ ∧
      low.toNat ≤ n / 4096 % 0x40 + 0x80 ∧ n / 4096 % 0x40 + 0x80 ≤ high.toNat := by
  have first : n / 262144 % 0x08 = n / 262144 := by omega
  simp only [lead, first, toNat_byte (by omega : n / 262144 + 0xf0 < 256)]
  rw [if_neg (by omega), if_neg (by omega), if_neg (by omega), if_neg (by omega), if_neg (by omega),
    if_neg (by omega)]
  by_cases overlong : n / 262144 = 0
  · rw [if_pos (by omega), overlong]
    exact ⟨_, _, rfl, by show 0x90 ≤ _; omega, by show _ ≤ 0xbf; omega⟩
  rw [if_neg (by omega)]
  -- The last code point lies within the range of the last first byte.
  by_cases final : n / 262144 = 4
  · rw [if_neg (by omega), if_pos (by omega), Nat.add_sub_cancel]
    exact ⟨_, _, rfl, by show 0x80 ≤ _; omega, by show _ ≤ 0x8f; omega⟩
  rw [if_pos (by omega), Nat.add_sub_cancel]
  exact ⟨_, _, rfl, by show 0x80 ≤ _; omega, by show _ ≤ 0xbf; omega⟩

/-! ## Characters and texts -/

theorem scan_encodeChar (c : Char) (rest : List UInt8) :
    scan none (String.utf8EncodeChar c ++ rest) = some c :: scan none rest := by
  obtain ⟨n, value⟩ : ∃ n, n = c.val.toNat := ⟨_, rfl⟩
  have back : Char.ofNat n = c := by rw [value]; exact Char.ofNat_toNat c
  have valid : n < 0xd800 ∨ (0xdfff < n ∧ n < 0x110000) := value ▸ c.valid
  simp only [String.utf8EncodeChar, ← value]
  -- One case for each length of an encoding; the bits of the bytes add up to the code point again.
  by_cases one : n ≤ 0x7f
  · simp only [if_pos one, List.cons_append, List.nil_append, scan, lead_one (by omega : n < 0x80),
      back]
  by_cases two : n ≤ 0x7ff
  · simp only [if_neg one, if_pos two, List.cons_append, List.nil_append]
    rw [scan_start (lead_two (by omega) two),
      scan_last rfl (by omega) (by show 0x80 ≤ _; omega) (by show _ ≤ 0xbf; omega)]
    have whole : n / 64 * 64 + (n % 0x40 + 0x80 - 0x80) = n := by omega
    rw [whole, back]
  by_cases three : n ≤ 0xffff
  · simp only [if_neg one, if_neg two, if_pos three, List.cons_append, List.nil_append]
    obtain ⟨low, high, started, least, most⟩ := lead_three (by omega) three (by omega)
    rw [scan_start started, scan_next rfl (by omega) least most,
      scan_last rfl (by omega) (by show 0x80 ≤ _; omega) (by show _ ≤ 0xbf; omega)]
    have whole : (n / 4096 * 64 + (n / 64 % 0x40 + 0x80 - 0x80)) * 64 +
        (n % 0x40 + 0x80 - 0x80) = n := by omega
    rw [whole, back]
  · simp only [if_neg one, if_neg two, if_neg three, List.cons_append, List.nil_append]
    obtain ⟨low, high, started, least, most⟩ := lead_four (n := n) (by omega) (by omega)
    rw [scan_start started, scan_next rfl (by omega) least most,
      scan_next rfl (by omega) (by show 0x80 ≤ _; omega) (by show _ ≤ 0xbf; omega),
      scan_last rfl (by omega) (by show 0x80 ≤ _; omega) (by show _ ≤ 0xbf; omega)]
    have whole : ((n / 262144 * 64 + (n / 4096 % 0x40 + 0x80 - 0x80)) * 64 +
        (n / 64 % 0x40 + 0x80 - 0x80)) * 64 + (n % 0x40 + 0x80 - 0x80) = n := by omega
    rw [whole, back]

theorem scan_flatMap_encodeChar (text : List Char) :
    scan none (text.flatMap String.utf8EncodeChar) = text.map some := by
  induction text with
  | nil => rfl
  | cons c text inductionHypothesis =>
    rw [List.flatMap_cons, scan_encodeChar, inductionHypothesis, List.map_cons]

theorem complete_map_some (text : List Char) : complete (text.map some) = some text := by
  induction text with
  | nil => rfl
  | cons c text inductionHypothesis => simp [complete, inductionHypothesis]

theorem encode_eq_flatMap (text : String) :
    encode text = text.toList.flatMap String.utf8EncodeChar := by
  have bytes : text.toList.utf8Encode = text.toByteArray := String.utf8Encode_toList
  rw [encode, String.toUTF8_eq_toByteArray, ← bytes, List.utf8Encode, List.data_toByteArray]

theorem decode?_encode (text : String) : decode? (encode text) = some text := by
  rw [decode?, encode_eq_flatMap, scan_flatMap_encodeChar, complete_map_some]
  simp

end RegisterMachine.Text.Utf8

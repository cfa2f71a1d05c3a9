import Mathlib.Algebra.BigOperators.Intervals
import Mathlib.Algebra.BigOperators.Ring.Finset
import Mathlib.Data.List.GetD
import RegisterMachine.Image.Binary

/-! # Reading binary images back

The bytes of a word give the word (`natOfBytes_bytesOfNat`), and eight bytes are taken at a time, so
a binary image is read with the words it was made of (`ofBytes_toBytes`).

The other way round every number of bytes that is a whole number of words is the binary form of an image,
and of one only (`ofBytes_exact`): the bytes of the number that eight bytes denote are these bytes again
(`bytesOfNat_natOfBytes`).
-/

namespace RegisterMachine.Image

/-! ## From words to bytes and back -/

theorem length_bytesOfNat (count n : Nat) : (bytesOfNat count n).length = count := by
  induction count generalizing n with
  | zero => rfl
  | succ count inductionHypothesis => simp [bytesOfNat, inductionHypothesis]

theorem natOfBytes_bytesOfNat (count n : Nat) :
    natOfBytes (bytesOfNat count n) = n % 256 ^ count := by
  induction count generalizing n with
  | zero => simp [bytesOfNat, natOfBytes, Nat.mod_one]
  | succ count inductionHypothesis =>
    have byte : n % 256 % 2 ^ 8 = n % 256 := Nat.mod_mod n 256
    rw [bytesOfNat, natOfBytes, inductionHypothesis, UInt8.toNat_ofNat', byte, Nat.pow_succ',
      Nat.mod_mul]

theorem length_bytesOfWord (word : Word) : (bytesOfWord word).length = wordBytes :=
  length_bytesOfNat wordBytes word.toNat

theorem wordsOfBytes_append {bytes : List UInt8} (whole : bytes.length = wordBytes)
    (rest : List UInt8) :
    wordsOfBytes (bytes ++ rest) = UInt64.ofNat (natOfBytes bytes) :: wordsOfBytes rest := by
  match bytes, whole with
  | [_, _, _, _, _, _, _, _], _ => rfl

theorem wordsOfBytes_flatMap (words : List Word) :
    wordsOfBytes (words.flatMap bytesOfWord) = words := by
  induction words with
  | nil => rfl
  | cons word words inductionHypothesis =>
    have number : natOfBytes (bytesOfWord word) = word.toNat :=
      (natOfBytes_bytesOfNat wordBytes word.toNat).trans (Nat.mod_eq_of_lt word.toNat_lt)
    rw [List.flatMap_cons, wordsOfBytes_append (length_bytesOfWord word), number,
      inductionHypothesis, UInt64.ofNat_toNat]

theorem length_toBytes (image : Image) : image.toBytes.length = wordBytes * image.words.length := by
  rw [toBytes, List.length_flatMap]
  simp [length_bytesOfWord, List.map_const', Nat.mul_comm]

theorem ofBytes_toBytes (image : Image) : ofBytes image.toBytes = .ok (ofWords image.words) := by
  have whole : image.toBytes.length % wordBytes = 0 := by
    rw [length_toBytes, Nat.mul_mod_right]
  rw [ofBytes, if_pos whole, toBytes, wordsOfBytes_flatMap]

theorem words_ofWords (words : List Word) : (ofWords words).words = words := by
  simp [ofWords, Image.words, Function.comp_def]

/-! ## From bytes to words and back -/

theorem natOfBytes_lt (bytes : List UInt8) : natOfBytes bytes < 256 ^ bytes.length := by
  induction bytes with
  | nil => exact Nat.one_pos
  | cons byte bytes inductionHypothesis =>
    have small := byte.toNat_lt
    rw [natOfBytes, List.length_cons, Nat.pow_succ']
    omega

theorem bytesOfNat_natOfBytes (bytes : List UInt8) :
    bytesOfNat bytes.length (natOfBytes bytes) = bytes := by
  induction bytes with
  | nil => rfl
  | cons byte bytes inductionHypothesis =>
    have small : byte.toNat < 256 := byte.toNat_lt
    rw [natOfBytes, List.length_cons, bytesOfNat, Nat.add_mul_mod_self_left,
      Nat.mod_eq_of_lt small, UInt8.ofNat_toNat, Nat.add_mul_div_left _ _ (by decide),
      Nat.div_eq_of_lt small, Nat.zero_add, inductionHypothesis]

/-- Each byte counts 256 times as much as the one before it. -/
theorem natOfBytes_eq_sum (bytes : List UInt8) :
    natOfBytes bytes = ∑ j ∈ Finset.range bytes.length, (bytes.getD j 0).toNat * 256 ^ j := by
  induction bytes with
  | nil => rfl
  | cons byte bytes inductionHypothesis =>
    rw [natOfBytes, inductionHypothesis, List.length_cons, Finset.sum_range_succ', Finset.mul_sum,
      Nat.add_comm]
    congr 1
    · refine Finset.sum_congr rfl fun j _ => ?_
      rw [List.getD_cons_succ, Nat.pow_succ']
      exact Nat.mul_left_comm _ _ _
    · rw [List.getD_cons_zero, Nat.pow_zero, Nat.mul_one]

/-- Bytes of whole words are none, or those of one word in front of bytes of whole words. -/
@[elab_as_elim]
theorem wholeWords_induction {p : List UInt8 → Prop} (none : p [])
    (more : ∀ group rest, group.length = wordBytes → p rest → p (group ++ rest))
    {bytes : List UInt8} (whole : wordBytes ∣ bytes.length) : p bytes := by
  obtain ⟨count, length⟩ := whole
  induction count generalizing bytes with
  | zero => exact List.eq_nil_of_length_eq_zero length ▸ none
  | succ count inductionHypothesis =>
    have group : (bytes.take wordBytes).length = wordBytes := by
      rw [List.length_take, length]
      exact Nat.min_eq_left (Nat.le_mul_of_pos_right _ count.succ_pos)
    have rest : (bytes.drop wordBytes).length = wordBytes * count := by
      rw [List.length_drop, length, Nat.mul_succ, Nat.add_sub_cancel]
    exact List.take_append_drop wordBytes bytes ▸ more _ _ group (inductionHypothesis rest)

section Group

variable {group : List UInt8} (length : group.length = wordBytes)

include length

theorem toNat_ofNat_natOfBytes : (UInt64.ofNat (natOfBytes group)).toNat = natOfBytes group := by
  have bound := natOfBytes_lt group
  rw [length] at bound
  exact UInt64.toNat_ofNat_of_lt' bound

theorem bytesOfWord_ofNat_natOfBytes : bytesOfWord (UInt64.ofNat (natOfBytes group)) = group := by
  rw [bytesOfWord, toNat_ofNat_natOfBytes length, ← length, bytesOfNat_natOfBytes]

end Group

section WholeWords

variable {bytes : List UInt8} (whole : wordBytes ∣ bytes.length)

include whole

theorem length_wordsOfBytes : (wordsOfBytes bytes).length = bytes.length / wordBytes := by
  refine wholeWords_induction ?none ?more whole
  case none => rfl
  case more =>
    intro group rest length counted
    rw [wordsOfBytes_append length, List.length_cons, counted, List.length_append, length,
      Nat.add_div_left _ (by decide)]

theorem flatMap_wordsOfBytes : (wordsOfBytes bytes).flatMap bytesOfWord = bytes := by
  refine wholeWords_induction ?none ?more whole
  case none => rfl
  case more =>
    intro group rest length restored
    rw [wordsOfBytes_append length, List.flatMap_cons, bytesOfWord_ofNat_natOfBytes length, restored]

theorem toNat_getElem_wordsOfBytes :
    ∀ i, (inside : i < (wordsOfBytes bytes).length) → (wordsOfBytes bytes)[i].toNat =
      ∑ j ∈ Finset.range wordBytes, (bytes.getD (wordBytes * i + j) 0).toNat * 256 ^ j := by
  refine wholeWords_induction ?none ?more whole
  case none => exact fun i inside => absurd inside (Nat.not_lt_zero i)
  case more =>
    intro group rest length valued i inside
    simp only [wordsOfBytes_append length] at inside ⊢
    -- The first word is the group; the bytes of any other word stand behind the group.
    cases i with
    | zero =>
      rw [List.getElem_cons_zero, toNat_ofNat_natOfBytes length, natOfBytes_eq_sum, length]
      refine Finset.sum_congr rfl fun j within => ?_
      have first : j < group.length := length ▸ Finset.mem_range.1 within
      rw [Nat.mul_zero, Nat.zero_add, List.getD_append _ _ _ _ first]
    | succ i =>
      rw [List.getElem_cons_succ, valued i (Nat.lt_of_succ_lt_succ inside)]
      refine Finset.sum_congr rfl fun j _ => ?_
      have behind : wordBytes * (i + 1) + j = group.length + (wordBytes * i + j) := by
        rw [length, Nat.mul_succ]
        omega
      rw [behind, List.getD_append_right _ _ _ _ (Nat.le_add_right _ _), Nat.add_sub_cancel_left]

end WholeWords

theorem ofBytes_of_whole {bytes : List UInt8} (whole : wordBytes ∣ bytes.length) :
    ofBytes bytes = .ok (ofWords (wordsOfBytes bytes)) :=
  if_pos (Nat.mod_eq_zero_of_dvd whole)

/-- Bytes are an image exactly if they are a whole number of words. Then they are the binary form of that
image, and each word is the number that its eight bytes denote, so other bytes are another image. -/
theorem ofBytes_exact (bytes : List UInt8) :
    (∀ e, ofBytes bytes = .error e ↔ ¬ 8 ∣ bytes.length ∧ e = .truncated bytes.length) ∧
    (8 ∣ bytes.length → ∃ image, ofBytes bytes = .ok image ∧
      image.words.length = bytes.length / 8 ∧ image.toBytes = bytes ∧
      ∀ i, (inside : i < image.words.length) → image.words[i].toNat =
        ∑ j ∈ Finset.range 8, (bytes.getD (8 * i + j) 0).toNat * 256 ^ j) ∧
    ∀ other, 8 ∣ bytes.length → 8 ∣ other.length → bytes ≠ other →
      (ofBytes bytes).map words ≠ (ofBytes other).map words := by
  refine ⟨fun e => ?refused, fun whole => ?read, fun other whole whole' different same => ?distinct⟩
  case refused =>
    rw [ofBytes, Nat.dvd_iff_mod_eq_zero]
    by_cases whole : bytes.length % 8 = 0
    · simp [wordBytes, whole]
    · simp [wordBytes, whole, eq_comm]
  case read =>
    refine ⟨_, ofBytes_of_whole whole, ?_⟩
    rw [toBytes]
    simp only [words_ofWords]
    exact ⟨length_wordsOfBytes whole, flatMap_wordsOfBytes whole, toNat_getElem_wordsOfBytes whole⟩
  case distinct =>
    rw [ofBytes_of_whole whole, ofBytes_of_whole whole'] at same
    have words : wordsOfBytes bytes = wordsOfBytes other := by
      simpa [Except.map, words_ofWords] using same
    rw [← flatMap_wordsOfBytes whole, words, flatMap_wordsOfBytes whole'] at different
    exact different rfl

/-- The bytes of one word, which read backwards are those of another. -/
def skewBytes : List UInt8 :=
  [1, 2, 0, 0, 0, 0, 0, 0x80]

theorem skewBytes_read :
    8 ∣ skewBytes.length ∧ 8 ∣ skewBytes.reverse.length ∧
      (∃ image, ofBytes skewBytes = .ok image ∧ image.words = [0x8000000000000201] ∧
        image.toBytes = skewBytes) ∧
      (ofBytes skewBytes).map words ≠ (ofBytes skewBytes.reverse).map words := by
  obtain ⟨_, read, distinct⟩ := ofBytes_exact skewBytes
  have whole : 8 ∣ skewBytes.length := by decide
  have whole' : 8 ∣ skewBytes.reverse.length := by decide
  refine ⟨whole, whole', ?_, distinct _ whole whole' (by decide)⟩
  obtain ⟨image, accepted, count, bytes, values⟩ := read whole
  obtain ⟨word, only⟩ := List.length_eq_one_iff.1 count
  have value := values 0 (by rw [count]; decide)
  have sum : ∑ j ∈ Finset.range 8, (skewBytes.getD (8 * 0 + j) 0).toNat * 256 ^ j =
      0x8000000000000201 := by decide
  rw [sum] at value
  simp only [only, List.getElem_cons_zero] at value
  refine ⟨image, accepted, ?_, bytes⟩
  rw [only, ← UInt64.ofNat_toNat (x := word), value]
  rfl

end RegisterMachine.Image

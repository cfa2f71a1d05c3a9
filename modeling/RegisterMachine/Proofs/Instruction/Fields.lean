import RegisterMachine.Proofs.Instruction.Operands
import Mathlib.Data.Nat.Digits.Defs

/-! # The fields of a word

A word is four fields of 16 bits, which are its digits in base 2^16 (`toNat_toWord`, `toNat_fields_ofWord`). So a
word and its instruction determine each other, and nothing of either is lost on the way to the other and back
(`toWord_ofWord`, `ofWord_toWord`).

The lowest field is the number of an operation if it is less than 21 (`opcode?_isSome_iff`), and an encoded
operation is read back with its operands (`ofWord_encode`).
-/

namespace RegisterMachine

namespace Instruction

/-! ## Fields as digits -/

section Digits

variable (shift : Word) (used : Nat)

/-- A field that is put above the bits in use adds its value there. -/
theorem toNat_or_shiftLeft {low : Word} (above : shift.toNat = used) (small : low.toNat < 2 ^ used)
    (room : used + 16 ≤ 64) (field : UInt16) :
    (low ||| field.toUInt64 <<< shift).toNat = low.toNat + 2 ^ used * field.toNat := by
  have inside : field.toNat <<< used < 2 ^ 64 := by
    calc field.toNat <<< used = field.toNat * 2 ^ used := Nat.shiftLeft_eq _ _
      _ < 2 ^ 16 * 2 ^ used := Nat.mul_lt_mul_of_pos_right field.toNat_lt (Nat.two_pow_pos _)
      _ = 2 ^ (16 + used) := (Nat.pow_add _ _ _).symm
      _ ≤ 2 ^ 64 := Nat.pow_le_pow_right (by decide) (by omega)
  rw [UInt64.toNat_or, UInt64.toNat_shiftLeft, UInt16.toNat_toUInt64, above,
    Nat.mod_eq_of_lt (by omega : used < 64), Nat.mod_eq_of_lt inside, Nat.or_comm,
    ← Nat.shiftLeft_add_eq_or_of_lt small, Nat.shiftLeft_eq, Nat.mul_comm, Nat.add_comm]

theorem toNat_toUInt16_shiftRight (above : shift.toNat = used) (room : used < 64) (word : Word) :
    (word >>> shift).toUInt16.toNat = word.toNat / 2 ^ used % 2 ^ 16 := by
  rw [UInt64.toNat_toUInt16, UInt64.toNat_shiftRight, above, Nat.mod_eq_of_lt room,
    Nat.shiftRight_eq_div_pow]

end Digits

/-- The fields are the digits of the word in base 2^16, the lowest first. -/
theorem toNat_toWord (i : Instruction) :
    i.toWord.toNat = Nat.ofDigits (2 ^ 16) ((i.code :: i.slots).map UInt16.toNat) := by
  have code : i.code.toUInt64.toNat < 2 ^ 16 := i.code.toNat_lt
  have a : i.a.toNat < 2 ^ 16 := i.a.toNat_lt
  have b : i.b.toNat < 2 ^ 16 := i.b.toNat_lt
  -- Each field is put above the ones that are there already.
  have two := toNat_or_shiftLeft 16 16 rfl code (by decide) i.a
  have three := toNat_or_shiftLeft 32 32 rfl
    (two.trans_lt (by omega)) (by decide) i.b
  have four := toNat_or_shiftLeft 48 48 rfl
    (three.trans_lt (by omega)) (by decide) i.c
  rw [toWord, four, three, two, UInt16.toNat_toUInt64]
  simp only [slots, List.map_cons, List.map_nil, Nat.ofDigits_cons, Nat.ofDigits_nil]
  omega

theorem toNat_fields_ofWord (word : Word) :
    ((ofWord word).code :: (ofWord word).slots).map UInt16.toNat =
      [word.toNat % 2 ^ 16, word.toNat / 2 ^ 16 % 2 ^ 16, word.toNat / 2 ^ 32 % 2 ^ 16,
        word.toNat / 2 ^ 48 % 2 ^ 16] := by
  simp only [slots, ofWord, List.map_cons, List.map_nil, UInt64.toNat_toUInt16,
    toNat_toUInt16_shiftRight 16 16 rfl (by decide),
    toNat_toUInt16_shiftRight 32 32 rfl (by decide),
    toNat_toUInt16_shiftRight 48 48 rfl (by decide)]

/-! ## There and back -/

theorem toWord_ofWord (word : Word) : (ofWord word).toWord = word := by
  apply UInt64.toNat_inj.1
  have bound := word.toNat_lt
  rw [toNat_toWord, toNat_fields_ofWord]
  simp only [Nat.ofDigits_cons, Nat.ofDigits_nil]
  omega

theorem eq_of_map_toNat_eq {i j : Instruction}
    (same : (i.code :: i.slots).map UInt16.toNat = (j.code :: j.slots).map UInt16.toNat) : i = j := by
  have fields : i.code :: i.slots = j.code :: j.slots :=
    (List.map_inj_right fun _ _ => UInt16.toNat_inj.1).1 same
  obtain ⟨code, a, b, c⟩ := i
  obtain ⟨code', a', b', c'⟩ := j
  simpa [slots] using fields

theorem ofWord_toWord (i : Instruction) : ofWord i.toWord = i := by
  have code := i.code.toNat_lt
  have a := i.a.toNat_lt
  have b := i.b.toNat_lt
  have c := i.c.toNat_lt
  apply eq_of_map_toNat_eq
  rw [toNat_fields_ofWord, toNat_toWord]
  simp only [slots, List.map_cons, List.map_nil, Nat.ofDigits_cons, Nat.ofDigits_nil]
  simp only [List.cons.injEq, and_true]
  omega

theorem code_ofWord (word : Word) : (ofWord word).code.toNat = word.toNat % 2 ^ 16 :=
  UInt64.toNat_toUInt16 word

/-! ## The operation of a word -/

theorem opcode?_isSome_iff (i : Instruction) : i.opcode?.isSome ↔ i.code.toNat < 21 := by
  rw [← Option.ne_none_iff_isSome, opcode?, ne_eq, Opcode.ofCode?_eq_none_iff]
  omega

theorem ofWord_encode (op : Opcode) (a b c : UInt16) : ofWord (encode op a b c) = .of op a b c :=
  ofWord_toWord _

theorem opcode?_of (op : Opcode) (a b c : UInt16) : (of op a b c).opcode? = some op :=
  Opcode.ofCode?_code op

end Instruction

theorem encode_inj {op op' : Opcode} {a a' b b' c c' : UInt16}
    (same : encode op a b c = encode op' a' b' c') : op = op' ∧ a = a' ∧ b = b' ∧ c = c' := by
  have fields : Instruction.of op a b c = Instruction.of op' a' b' c' := by
    rw [← Instruction.ofWord_encode, same, Instruction.ofWord_encode]
  obtain ⟨code, rfl, rfl, rfl⟩ := Instruction.mk.inj fields
  have named : some op = some op' := by rw [← Opcode.ofCode?_code op, code, Opcode.ofCode?_code]
  exact ⟨Option.some.inj named, rfl, rfl, rfl⟩

/-- A word and its instruction are two views of the same bits: each is the other's inverse, and the fields
are the digits of the word in base 2^16. An encoded operation is read back with its operands, and no two
encodings are the same word. A word names an operation exactly if its lowest field is less than 21, and then
that field is the number of the operation; the operations are numbered in the order of the encoding. -/
theorem views_inverse :
    (∀ word : Word, (Instruction.ofWord word).toWord = word) ∧
    (∀ i : Instruction, Instruction.ofWord i.toWord = i) ∧
    (∀ i : Instruction,
      i.toWord.toNat = Nat.ofDigits (2 ^ 16) ((i.code :: i.slots).map UInt16.toNat)) ∧
    (∀ (op : Opcode) (a b c : UInt16),
      (Instruction.ofWord (encode op a b c)).opcode? = some op ∧
      (Instruction.ofWord (encode op a b c)).slots = [a, b, c]) ∧
    (∀ (op op' : Opcode) (a a' b b' c c' : UInt16),
      encode op a b c = encode op' a' b' c' → op = op' ∧ a = a' ∧ b = b' ∧ c = c') ∧
    (∀ word : Word, (Instruction.ofWord word).opcode?.isSome ↔ word.toNat % 2 ^ 16 < 21) ∧
    (∀ (word : Word) (op : Opcode), (Instruction.ofWord word).opcode? = some op →
      op.code.toNat = word.toNat % 2 ^ 16) ∧
    Opcode.all.map (·.code.toNat) = List.range 21 := by
  refine ⟨Instruction.toWord_ofWord, Instruction.ofWord_toWord, Instruction.toNat_toWord, ?_, ?_, ?_,
    ?_, by decide⟩
  · intro op a b c
    rw [Instruction.ofWord_encode]
    exact ⟨Instruction.opcode?_of op a b c, rfl⟩
  · intro op op' a a' b b' c c' same
    exact encode_inj same
  · intro word
    rw [Instruction.opcode?_isSome_iff, Instruction.code_ofWord]
  · intro word op named
    rw [← Instruction.code_ofWord, Opcode.ofCode?_eq_some_iff.1 named]

/-- The operands stand above the operation number, the last one highest. -/
example : encode .beq 0x0102 0x0304 0x0506 = 0x050603040102000d := by decide

end RegisterMachine

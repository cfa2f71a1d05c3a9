import RegisterMachine.Instruction.Disassembly
import RegisterMachine.Instruction.Request
import RegisterMachine.Proofs.Instruction.Fields
import RegisterMachine.Proofs.Text.Numeral
import RegisterMachine.Proofs.Text.Separated

/-! # What assembly text tells

The first blank in the text of an instruction ends its mnemonic, which names the operation
(`named?_render`). Commas separate the operands, and each operand is read off its numeral, so the text tells
every operand slot that the operation uses (`operands_eq_of_render_eq`). An instruction of no known operation
is shown with all its bits.

Nothing else of an instruction counts: what it asks for is the same whatever the slots hold that its operation
does not use (`request_congr`).
-/

namespace RegisterMachine

open Text

/-! ## The parts of the text -/

namespace Opcode

theorem isUpper_of_mem_mnemonic {op : Opcode} {c : Char} (member : c ∈ op.mnemonic.toList) :
    c.isUpper = true := by
  have capital : op.mnemonic.toList.all Char.isUpper = true := by
    cases op <;> rfl
  exact List.all_eq_true.1 capital c member

theorem not_mem_mnemonic {c : Char} (strange : c.isUpper = false) (op : Opcode) :
    c ∉ op.mnemonic.toList := by
  intro member
  rw [isUpper_of_mem_mnemonic member] at strange
  cases strange

def named? (name : List Char) : Option Opcode :=
  all.find? fun op => op.mnemonic.toList == name

theorem named?_mnemonic (op : Opcode) : named? op.mnemonic.toList = some op := by
  have distinct : ∀ op ∈ all, named? op.mnemonic.toList = some op := by decide +kernel
  exact distinct op (by cases op <;> decide)

end Opcode

namespace OperandKind

theorem not_mem_render {c : Char} (strange : ¬ Digit c) (register : c ≠ 'r') (address : c ≠ '@')
    (kind : OperandKind) (value : UInt16) : c ∉ (kind.render value).toList := by
  have digits : c ∉ (decimal value.toNat).toList := not_mem_decimal strange _
  cases kind <;> simp [render, digits, register, address]

theorem render_inj {kind : OperandKind} {value value' : UInt16} :
    kind.render value = kind.render value' ↔ value = value' := by
  constructor
  · intro same
    have digits : decimal value.toNat = decimal value'.toNat := by
      cases kind with
      | immediate => exact same
      | register | address => exact (String.append_right_inj _).1 same
    exact UInt16.toNat_inj.1 (decimal_inj.1 digits)
  · rintro rfl
    rfl

end OperandKind

/-- Operands as they stand behind a mnemonic. -/
def operandText : List String → String
  | [] => ""
  | texts => " " ++ ", ".intercalate texts

theorem operandText_inj {texts others : List String} (fresh : ∀ text ∈ texts, ',' ∉ text.toList)
    (fresh' : ∀ text ∈ others, ',' ∉ text.toList) (count : texts.length = others.length)
    (same : operandText texts = operandText others) : texts = others := by
  match texts, others, count with
  | [], [], _ => rfl
  | text :: texts, other :: others, count =>
    exact intercalate_inj rfl fresh fresh' count ((String.append_right_inj _).1 same)

namespace Instruction

variable {i j : Instruction} {op : Opcode}

/-! ## The operation -/

theorem render_of_unknown (unknown : i.opcode? = none) :
    i.render = "???" ++ (" " ++ hexWord i.toWord) := by
  rw [render, unknown, ← String.append_assoc]
  rfl

theorem render_of_known (known : i.opcode? = some op) :
    i.render = op.mnemonic ++
      operandText ((i.operands op).map fun operand => operand.1.render operand.2) := by
  rw [render, known]
  dsimp only
  cases i.operands op with
  | nil => exact String.append_empty.symm
  | cons operand operands => exact String.append_assoc

/-- The operation can be read off the text. -/
theorem named?_render (i : Instruction) :
    Opcode.named? (i.render.toList.takeWhile (· != ' ')) = i.opcode? := by
  cases known : i.opcode? with
  | none =>
    -- What stands in front of the blank here is no mnemonic.
    rw [render_of_unknown known, String.toList_append,
      takeWhile_append_mark (by decide) (by simp)]
    rfl
  | some op =>
    have blank : ' ' ∉ op.mnemonic.toList := Opcode.not_mem_mnemonic (by decide) op
    have behind : ∀ texts, ∀ c ∈ (operandText texts).toList.head?, c = ' ' := by
      intro texts
      cases texts <;> simp [operandText]
    rw [render_of_known known, String.toList_append, takeWhile_append_mark blank (behind _),
      Opcode.named?_mnemonic]

theorem opcode?_eq_of_render_eq (same : i.render = j.render) : i.opcode? = j.opcode? := by
  rw [← named?_render i, same, named?_render j]

/-! ## The operands -/

theorem zip_eq_of_map_render_eq {kinds : List OperandKind} {values values' : List UInt16}
    (same : (kinds.zip values).map (fun operand => operand.1.render operand.2) =
      (kinds.zip values').map fun operand => operand.1.render operand.2) :
    kinds.zip values = kinds.zip values' := by
  induction kinds generalizing values values' with
  | nil => rfl
  | cons kind kinds inductionHypothesis =>
    match values, values' with
    | [], [] => rfl
    | [], _ :: _ => cases same
    | _ :: _, [] => cases same
    | value :: values, value' :: values' =>
      obtain ⟨first, others⟩ := List.cons.inj same
      obtain rfl : value = value' := OperandKind.render_inj.1 first
      rw [List.zip_cons_cons, List.zip_cons_cons, inductionHypothesis others]

theorem operands_eq_of_render_eq (same : i.render = j.render) (known : i.opcode? = some op) :
    i.operands op = j.operands op := by
  have known' : j.opcode? = some op := opcode?_eq_of_render_eq same ▸ known
  rw [render_of_known known, render_of_known known'] at same
  have fresh : ∀ operands : List (OperandKind × UInt16),
      ∀ text ∈ operands.map fun operand => operand.1.render operand.2, ',' ∉ text.toList := by
    intro operands text member
    obtain ⟨⟨kind, value⟩, _, rfl⟩ := List.mem_map.1 member
    exact kind.not_mem_render (by decide) (by decide) (by decide) value
  refine zip_eq_of_map_render_eq (operandText_inj (fresh _) (fresh _) ?_ ?_)
  · simp only [List.length_map, List.length_zip]
    rfl
  · exact (String.append_right_inj _).1 same

/-! ## Words of no known operation -/

theorem eq_of_render_eq {first second : Word} (same : (ofWord first).render = (ofWord second).render)
    (unknown : (ofWord first).opcode? = none) : first = second := by
  have unknown' : (ofWord second).opcode? = none := opcode?_eq_of_render_eq same ▸ unknown
  rw [render_of_unknown unknown, render_of_unknown unknown'] at same
  have bits : hexWord (ofWord first).toWord = hexWord (ofWord second).toWord :=
    (String.append_right_inj _).1 ((String.append_right_inj _).1 same)
  rwa [hexWord_inj, toWord_ofWord, toWord_ofWord] at bits

/-! ## What an instruction asks for -/

/-- Slots that an operation does not use have no effect on what is asked for. -/
theorem resolve_congr (same : i.operands op = j.operands op) (r : Registers) (pc : Word) :
    i.resolve op r pc = j.resolve op r pc := by
  obtain ⟨code, a, b, c⟩ := i
  obtain ⟨code', a', b', c'⟩ := j
  -- One case for each number of slots that the operand table lists.
  cases op with
  | nop | halt | syscall => rfl
  | jmp | jmpr =>
    obtain rfl : a = a' := by simpa [operands, slots, Opcode.operands] using same
    rfl
  | add | sub | mul | div | addi | subi | muli | divi | mov | movi | load | store =>
    obtain ⟨rfl, rfl⟩ : a = a' ∧ b = b' := by simpa [operands, slots, Opcode.operands] using same
    rfl
  | beq | bne | blt | bgt =>
    obtain ⟨rfl, rfl, rfl⟩ : a = a' ∧ b = b' ∧ c = c' := by
      simpa [operands, slots, Opcode.operands] using same
    rfl

theorem request_congr (known : i.opcode? = some op) (known' : j.opcode? = some op)
    (same : i.operands op = j.operands op) (r : Registers) (pc : Word) :
    i.request r pc = j.request r pc := by
  simp only [request, known, known', resolve_congr same]

end Instruction

end RegisterMachine

import RegisterMachine.Machine.Step
import RegisterMachine.Memory.Basic
import RegisterMachine.Device.Console
import RegisterMachine.Proofs.Instruction.Disassembly

/-! # Words with the same assembly text

Words with the same text are of the same operation, agree on every operand that it uses, and do the same to
every machine (`same_text_same_effect`). What they do can differ only in the instruction that is reported as
completed, which also has the slots that its operation does not use (`execute_congr`).
-/

namespace RegisterMachine

/-- The outcome with another instruction for the completed one. -/
def Outcome.reporting (instruction : Instruction) : Outcome → Outcome
  | .executed _ => .executed instruction
  | outcome => outcome

namespace Machine

variable {capacity : Nat} {μ δ : Type} [MemoryBus μ] [DeviceBus δ] [StringsEnd μ δ]

theorem execute_congr {first second : Word} (m : Machine capacity μ δ)
    (same : (Instruction.ofWord first).request m.processor.registers m.processor.pc =
      (Instruction.ofWord second).request m.processor.registers m.processor.pc) :
    m.execute second = (m.execute first).map (.reporting (.ofWord second)) id := by
  simp only [execute, same]
  cases (Instruction.ofWord second).request m.processor.registers m.processor.pc with
  | error trap => cases trap <;> rfl
  | ok demand =>
    dsimp only
    cases m.serve demand with
    | mk answer served => cases answer <;> rfl

end Machine

namespace Instruction

theorem request_eq_of_render_eq {first second : Word}
    (same : (ofWord first).render = (ofWord second).render) (r : Registers) (pc : Word) :
    (ofWord first).request r pc = (ofWord second).request r pc := by
  cases known : (ofWord first).opcode? with
  | none => rw [eq_of_render_eq same known]
  | some op =>
    have known' : (ofWord second).opcode? = some op := opcode?_eq_of_render_eq same ▸ known
    exact request_congr known known' (operands_eq_of_render_eq same known) r pc

end Instruction

/-- A word of no known operation is told by its text. Words of known operations with the same text are of the
same operation and have the same operands, they ask for the same at every state of the registers, and they
take every machine to the same machine with the same outcome. `StringsEnd` stands for the cycle of that
machine ending. -/
theorem same_text_same_effect {first second : Word} (same : disassemble first = disassemble second) :
    ((Instruction.ofWord first).opcode? = none → first = second) ∧
    (∀ op, (Instruction.ofWord first).opcode? = some op →
      (Instruction.ofWord second).opcode? = some op ∧
      (Instruction.ofWord first).operands op = (Instruction.ofWord second).operands op) ∧
    (∀ r pc, (Instruction.ofWord first).request r pc = (Instruction.ofWord second).request r pc) ∧
    ∀ {capacity : Nat} {μ δ : Type} [MemoryBus μ] [DeviceBus δ] [StringsEnd μ δ]
      (m : Machine capacity μ δ),
      m.execute second = (m.execute first).map (.reporting (.ofWord second)) id := by
  refine ⟨?unknown, ?known, ?request, ?executed⟩
  case unknown => exact Instruction.eq_of_render_eq same
  case known =>
    intro op known
    exact ⟨Instruction.opcode?_eq_of_render_eq same ▸ known,
      Instruction.operands_eq_of_render_eq same known⟩
  case request => exact Instruction.request_eq_of_render_eq same
  case executed =>
    intro capacity μ δ _ _ _ m
    exact m.execute_congr (Instruction.request_eq_of_render_eq same _ _)

/-- Two jumps to address 5 that differ in the slots that a jump does not use. -/
theorem unusedSlots_ignored :
    disassemble (encode .jmp 5 1 2) = "JMP @5" ∧ disassemble (encode .jmp 5 7 0xffff) = "JMP @5" ∧
      ∀ m : Machine 4 Memory Console,
        (m.execute (encode .jmp 5 1 2)).1 = .executed (.of .jmp 5 1 2) ∧
        (m.execute (encode .jmp 5 7 0xffff)).1 = .executed (.of .jmp 5 7 0xffff) ∧
        (m.execute (encode .jmp 5 7 0xffff)).2 = (m.execute (encode .jmp 5 1 2)).2 := by
  have text : disassemble (encode .jmp 5 1 2) = "JMP @5" := by decide +kernel
  have text' : disassemble (encode .jmp 5 7 0xffff) = "JMP @5" := by decide +kernel
  refine ⟨text, text', fun m => ?_⟩
  obtain ⟨_, _, _, effect⟩ := same_text_same_effect (text.trans text'.symm)
  rw [effect m]
  exact ⟨rfl, rfl, rfl⟩

end RegisterMachine

import RegisterMachine.Proofs.Machine.Completion
import RegisterMachine.Proofs.Machine.History

/-! # The stack pointer in a cycle

A cycle that completes an instruction assigns what the instruction computes or loads, and moves the program
counter behind that. The move reaches no other register: the stack pointer is left as the instruction itself
has left it, over every memory and with any devices (`counterMovesAlone`). The instruction is known by the
effect that it has on the processor (`effect?`), which assigns to no register but the one in slot 0.
-/

namespace RegisterMachine.Machine

variable {capacity : Nat} {μ δ : Type} [MemoryBus μ] [DeviceBus δ] [StringsEnd μ δ]
  {m m' served : Machine capacity μ δ} {outcome : Outcome}

/-- The effect that the next cycle has on the processor, if it completes an instruction. -/
def effect? (m : Machine capacity μ δ) : Option Effect :=
  if m.running then
    match m.load m.processor.pc with
    | (.error _, _) => none
    | (.ok word, fetched) =>
      match (Instruction.ofWord word).request m.processor.registers m.processor.pc with
      | .error _ => none
      | .ok demand => (fetched.serve demand).1.toOption
  else none

/-- An instruction assigns to no register but the one that its slot 0 names. -/
theorem target_of_serve {i : Instruction} {op : Opcode} {r : Registers} {target : RegisterIndex}
    {value : Word} (good : i.badOperand? op = none)
    (serve : m.serve (i.demand op r) = (.ok (.assign target value), served)) :
    i.a.toNat = target.val := by
  obtain ⟨rfl, slot⟩ : target = RegisterIndex.ofSlot i.a ∧ i.a ∈ i.registerSlots op := by
    cases op with
    | load =>
      simp only [Instruction.demand, Machine.serve] at serve
      split at serve
      · cases serve
      · cases serve
        exact ⟨rfl, List.mem_cons_self⟩
    | store | syscall =>
      simp only [Instruction.demand, Machine.serve] at serve
      split at serve <;> cases serve
    | beq | bne | blt | bgt =>
      have assigns := Except.ok.inj (Prod.mk.inj serve).1
      exact absurd assigns (Effect.jumpIf_ne_assign _ _ _ _)
    | nop | jmp | jmpr | halt => cases serve
    | _ =>
      cases serve
      exact ⟨rfl, List.mem_cons_self⟩
  exact (RegisterIndex.val_ofSlot (Instruction.named_of_badOperand? good _ slot)).symm

/-- Exactly a cycle that completes an instruction has an effect, and it does nothing else to the
processor. -/
theorem effect?_of_step (stepped : m.step = (outcome, m')) :
    match outcome with
    | .executed i => ∃ effect, m.effect? = some effect ∧
        m'.processor = m.processor.complete effect ∧
        ∀ target value, effect = .assign target value → i.a.toNat = target.val
    | _ => m.effect? = none := by
  cases cycle_of_step stepped with
  | idle stopped => simp [effect?, stopped]
  | unfetched running fetch => simp [effect?, running, fetch]
  | refused running fetch request | misnamed running fetch request =>
    simp [effect?, running, fetch, request]
  | unserved running fetch request serve =>
    simp [effect?, running, fetch, request, serve, Except.toOption]
  | @completed fetched served word demand effect running fetch request serve =>
    have kept := (surrounds_of_load fetch).trans (surrounds_of_serve serve)
    refine ⟨effect, ?_, congrArg (Processor.complete · effect) kept.processor, ?_⟩
    · simp [effect?, running, fetch, request, serve, Except.toOption]
    · rintro target value rfl
      obtain ⟨op, _, good, _, rfl⟩ := Instruction.request_eq_ok request
      exact target_of_serve good serve

theorem sp_of_step (stepped : m.step = (outcome, m')) (uncompleted : outcome.completes = false) :
    m'.processor.sp = m.processor.sp := by
  have processor := processor_of_step stepped
  cases outcome with
  | idle | fatal _ => exact congrArg Processor.sp processor
  | faulted fault =>
    have stopped : m'.processor = m.processor.stop fault := processor
    rw [stopped]
    rfl
  | executed _ => cases uncompleted

/-- The next cycle leaves in the stack pointer what its instruction assigns to it, which names it in slot 0,
and else what it held before, wherever the program counter goes. -/
structure CounterMovesAlone (m : Machine capacity μ δ) : Prop where
  completed : ∀ effect, m.effect? = some effect →
    m.step.2.processor.sp.toNat = effect.valueAfter m.processor.registers m.processor.roles.sp
  named : ∀ target value, m.effect? = some (.assign target value) →
    ∃ i, m.step.1 = .executed i ∧ i.a.toNat = target.val
  uncompleted : m.effect? = none → m.step.2.processor.sp = m.processor.sp

theorem counterMovesAlone (m : Machine capacity μ δ) : CounterMovesAlone m := by
  rcases stepped : m.step with ⟨outcome, m'⟩
  have found := effect?_of_step stepped
  cases outcome with
  | idle | faulted _ | fatal _ =>
    have nothing : m.effect? = none := found
    have kept := sp_of_step stepped rfl
    constructor <;> simp [nothing, stepped, kept]
  | executed i =>
    obtain ⟨effect, found, processor, slot⟩ := found
    have roles := roles_of_step stepped
    constructor
    case completed =>
      intro other same
      obtain rfl := Option.some.inj (found.symm.trans same)
      -- The stack pointer is one of the registers that the program counter is not.
      have general := m.processor.roles.distinct.symm
      rw [stepped, Processor.sp, roles, processor,
        Processor.toNat_get_complete m.processor effect general]
    case named =>
      intro target value same
      obtain rfl := Option.some.inj (found.symm.trans same)
      exact ⟨i, congrArg Prod.fst stepped, slot target value rfl⟩
    case uncompleted =>
      intro nothing
      rw [found] at nothing
      cases nothing

end RegisterMachine.Machine

import RegisterMachine.Machine.Run
import RegisterMachine.Proofs.Machine.Cycle
import RegisterMachine.Proofs.Processor.Update

/-! # The cycles of a run

A run is a sequence of cycles. `Performs` relates a machine to the outcomes of the cycles it performs
and to the machine behind them: every cycle is one of a running machine, and none follows a program
error. `Runs` adds why the sequence ends where it does: the machine has stopped, the last cycle was a
program error, or the limit is reached.

What a run counts and what it leaves behind is read off its outcomes. A cycle that is neither completed
nor refused stops the machine, so that it can only be the last one; this is what keeps a budget of
cycles and a count of completed instructions in step.
-/

namespace RegisterMachine

namespace Outcome

def completes : Outcome → Bool
  | .executed _ => true
  | _ => false

def error? : Outcome → Option ProgramError
  | .fatal error => some error
  | _ => none

def fault? : Outcome → Option Fault
  | .faulted fault => some fault
  | _ => none

theorem error?_eq_some_iff {outcome : Outcome} {error : ProgramError} :
    outcome.error? = some error ↔ outcome = .fatal error := by
  cases outcome <;> simp [error?]

theorem fault?_eq_some_iff {outcome : Outcome} {fault : Fault} :
    outcome.fault? = some fault ↔ outcome = .faulted fault := by
  cases outcome <;> simp [fault?]

end Outcome

namespace Machine

variable {capacity : Nat} {μ δ : Type} [MemoryBus μ] [DeviceBus δ] [StringsEnd μ δ]
variable {m m' : Machine capacity μ δ} {outcome : Outcome}

/-! ## One cycle -/

theorem step_of_stopped (stopped : m.running = false) : m.step = (.idle, m) := by
  simp [step, stopped]

/-- What a cycle can do to the processor, whatever it does to memory and devices. -/
theorem processor_of_step (stepped : m.step = (outcome, m')) :
    match outcome with
    | .idle | .fatal _ => m'.processor = m.processor
    | .faulted fault => m'.processor = m.processor.stop fault
    | .executed _ => ∃ effect, m'.processor = m.processor.complete effect := by
  cases cycle_of_step stepped with
  | idle _ => rfl
  | refused _ fetch _ => exact (surrounds_of_load fetch).processor
  | unfetched _ fetch | misnamed _ fetch _ =>
    have kept := surrounds_of_load fetch
    exact congrArg (Processor.stop · _) kept.processor
  | unserved _ fetch _ serve =>
    have kept := (surrounds_of_load fetch).trans (surrounds_of_serve serve)
    exact congrArg (Processor.stop · _) kept.processor
  | completed _ fetch _ serve =>
    have kept := (surrounds_of_load fetch).trans (surrounds_of_serve serve)
    exact ⟨_, congrArg (Processor.complete · _) kept.processor⟩

theorem installed_of_step (stepped : m.step = (outcome, m')) :
    m'.memoryInstalled = m.memoryInstalled ∧ m'.devicesInstalled = m.devicesInstalled := by
  cases cycle_of_step stepped with
  | idle _ => exact ⟨rfl, rfl⟩
  | unfetched _ fetch | refused _ fetch _ | misnamed _ fetch _ =>
    have kept := surrounds_of_load fetch
    exact ⟨kept.memoryInstalled, kept.devicesInstalled⟩
  | unserved _ fetch _ serve | completed _ fetch _ serve =>
    have kept := (surrounds_of_load fetch).trans (surrounds_of_serve serve)
    exact ⟨kept.memoryInstalled, kept.devicesInstalled⟩

theorem cycles_of_step (stepped : m.step = (outcome, m')) :
    m'.processor.cycles = m.processor.cycles + if outcome.completes then 1 else 0 := by
  have processor := processor_of_step stepped
  cases outcome with
  | idle | fatal _ => exact congrArg Processor.cycles processor
  | faulted fault =>
    have processor : m'.processor = m.processor.stop fault := processor
    rw [processor]
    rfl
  | executed _ =>
    obtain ⟨effect, processor⟩ := processor
    rw [processor]
    exact Processor.cycles_complete _ effect

theorem roles_of_step (stepped : m.step = (outcome, m')) :
    m'.processor.roles = m.processor.roles := by
  have processor := processor_of_step stepped
  cases outcome with
  | idle | fatal _ => exact congrArg Processor.roles processor
  | faulted fault =>
    have processor : m'.processor = m.processor.stop fault := processor
    rw [processor, Processor.roles_stop]
  | executed _ =>
    obtain ⟨effect, processor⟩ := processor
    rw [processor, Processor.roles_complete]

theorem fault_of_step (stepped : m.step = (outcome, m')) :
    m'.processor.fault = outcome.fault?.or m.processor.fault := by
  have processor := processor_of_step stepped
  cases outcome with
  | idle | fatal _ => exact congrArg Processor.fault processor
  | faulted fault => exact congrArg Processor.fault processor
  | executed _ =>
    obtain ⟨effect, processor⟩ := processor
    rw [processor]
    exact Processor.fault_complete _ effect

theorem running_of_step_faulted {fault : Fault} (stepped : m.step = (.faulted fault, m')) :
    m'.running = false := by
  have processor : m'.processor = m.processor.stop fault := processor_of_step stepped
  show m'.processor.registers.running = false
  rw [processor, Processor.registers_stop, Registers.running_setRunning_false]

/-- A cycle that is neither completed nor refused leaves a stopped machine. -/
theorem stopped_of_step (stepped : m.step = (outcome, m')) (uncounted : outcome.completes = false)
    (accepted : outcome.error? = none) : m'.running = false := by
  cases outcome with
  | idle =>
    cases cycle_of_step stepped with
    | idle stopped => exact stopped
  | faulted fault => exact running_of_step_faulted stepped
  | executed _ => cases uncounted
  | fatal _ => cases accepted

/-! ## Cycle after cycle -/

/-- What only the last cycle can tell is not changed by a cycle in front that does not tell it. -/
theorem getLast?_bind_cons {α : Type} (tell : Outcome → Option α) {outcome : Outcome}
    (silent : tell outcome = none) (outcomes : List Outcome) :
    (outcome :: outcomes).getLast?.bind tell = outcomes.getLast?.bind tell := by
  cases outcomes with
  | nil => exact silent
  | cons _ _ => rw [List.getLast?_cons_cons]

theorem cyclesFor_of_stopped (stopped : m.running = false) (budget : Nat) :
    cyclesFor budget m = (none, m) := by
  cases budget <;> simp [cyclesFor, stopped]

theorem cyclesFor_succ {budget : Nat} (running : m.running = true)
    (stepped : m.step = (outcome, m')) :
    cyclesFor (budget + 1) m =
      match outcome.error? with
      | some error => (some error, m')
      | none => cyclesFor budget m' := by
  simp only [cyclesFor, running, stepped, if_true]
  cases outcome <;> rfl

/-- The cycles that a run performs, and the machine behind them. -/
inductive Performs : Machine capacity μ δ → List Outcome → Machine capacity μ δ → Prop where
  | nothing (m : Machine capacity μ δ) : Performs m [] m
  | refused {m m' : Machine capacity μ δ} {error : ProgramError}
      (stepped : m.step = (.fatal error, m')) : Performs m [.fatal error] m'
  | next {m m' m'' : Machine capacity μ δ} {outcome : Outcome} {outcomes : List Outcome}
      (running : m.running = true) (stepped : m.step = (outcome, m'))
      (accepted : outcome.error? = none) (rest : Performs m' outcomes m'') :
      Performs m (outcome :: outcomes) m''

namespace Performs

variable {outcomes : List Outcome}

theorem of_stopped (performed : Performs m outcomes m') (stopped : m.running = false) :
    outcomes = [] ∧ m' = m := by
  cases performed with
  | nothing => exact ⟨rfl, rfl⟩
  | refused stepped =>
    rw [step_of_stopped stopped] at stepped
    cases (Prod.mk.inj stepped).1
  | next running _ _ _ =>
    rw [stopped] at running
    cases running

theorem cycles (performed : Performs m outcomes m') :
    m'.processor.cycles = m.processor.cycles + outcomes.countP Outcome.completes := by
  induction performed with
  | nothing => rfl
  | refused stepped => exact cycles_of_step stepped
  | next running stepped accepted rest inductionHypothesis =>
    rw [inductionHypothesis, cycles_of_step stepped, List.countP_cons]
    omega

theorem roles (performed : Performs m outcomes m') : m'.processor.roles = m.processor.roles := by
  induction performed with
  | nothing => rfl
  | refused stepped => exact roles_of_step stepped
  | next running stepped accepted rest inductionHypothesis =>
    rw [inductionHypothesis, roles_of_step stepped]

/-- A fault stops the machine, so that only the last cycle can have faulted. -/
theorem fault (performed : Performs m outcomes m') :
    m'.processor.fault = (outcomes.getLast?.bind Outcome.fault?).or m.processor.fault := by
  induction performed with
  | nothing => rfl
  | refused stepped => exact fault_of_step stepped
  | @next m m₁ m' outcome outcomes running stepped accepted rest inductionHypothesis =>
    cases unfaulted : outcome.fault? with
    | none =>
      rw [inductionHypothesis, fault_of_step stepped, unfaulted, getLast?_bind_cons _ unfaulted]
      rfl
    | some fault =>
      obtain rfl := Outcome.fault?_eq_some_iff.1 unfaulted
      obtain ⟨rfl, rfl⟩ := rest.of_stopped (running_of_step_faulted stepped)
      exact fault_of_step stepped

/-- A run in which some cycle completes no instruction, and none is a program error, ends stopped. -/
theorem stopped_of_uncounted (performed : Performs m outcomes m')
    (accepted : outcomes.getLast?.bind Outcome.error? = none)
    (uncounted : outcomes.countP Outcome.completes < outcomes.length) : m'.running = false := by
  induction performed with
  | nothing => exact absurd uncounted (Nat.lt_irrefl 0)
  | refused stepped => cases accepted
  | @next m m₁ m' outcome outcomes running stepped unrefused rest inductionHypothesis =>
    cases counted : outcome.completes with
    | false =>
      have stopped := stopped_of_step stepped counted unrefused
      rw [(rest.of_stopped stopped).2]
      exact stopped
    | true =>
      rw [getLast?_bind_cons _ unrefused] at accepted
      refine inductionHypothesis accepted ?_
      simpa [List.countP_cons, counted] using uncounted

theorem last (performed : Performs m outcomes m') {outcome : Outcome}
    (last : outcomes.getLast? = some outcome) :
    ∃ before : Machine capacity μ δ, before.running = true ∧ before.step = (outcome, m') := by
  induction performed with
  | nothing => cases last
  | refused stepped =>
    obtain rfl := Option.some.inj last
    cases cycle_of_step stepped with
    | refused running _ _ => exact ⟨_, running, stepped⟩
  | @next m m₁ m' outcome' outcomes running stepped accepted rest inductionHypothesis =>
    cases outcomes with
    | nil =>
      obtain rfl := Option.some.inj last
      cases rest
      exact ⟨m, running, stepped⟩
    | cons _ _ =>
      rw [List.getLast?_cons_cons] at last
      exact inductionHypothesis last

end Performs

/-- A run under a limit, if there is one: the cycles it performs, the machine at its end, and a reason
to end there. -/
structure Runs (limit : Option Nat) (m : Machine capacity μ δ) (outcomes : List Outcome)
    (m' : Machine capacity μ δ) : Prop where
  performed : Performs m outcomes m'
  within : ∀ bound ∈ limit, outcomes.length ≤ bound
  ended : m'.running = false ∨ (outcomes.getLast?.bind Outcome.error?).isSome ∨
    limit = some outcomes.length

theorem runs_cyclesFor (budget : Nat) (m : Machine capacity μ δ) :
    ∃ outcomes, Runs (some budget) m outcomes (cyclesFor budget m).2 ∧
      (cyclesFor budget m).1 = outcomes.getLast?.bind Outcome.error? := by
  induction budget generalizing m with
  | zero => exact ⟨[], ⟨.nothing m, fun bound _ => Nat.zero_le bound, .inr (.inr rfl)⟩, rfl⟩
  | succ budget inductionHypothesis =>
    cases running : m.running with
    | false =>
      rw [cyclesFor_of_stopped running]
      exact ⟨[], ⟨.nothing m, fun bound _ => Nat.zero_le bound, .inl running⟩, rfl⟩
    | true =>
      rcases stepped : m.step with ⟨outcome, m₁⟩
      rw [cyclesFor_succ running stepped]
      cases refused : outcome.error? with
      | some error =>
        obtain rfl := Outcome.error?_eq_some_iff.1 refused
        exact ⟨[.fatal error], ⟨.refused stepped, by simp, .inr (.inl rfl)⟩, rfl⟩
      | none =>
        obtain ⟨outcomes, ⟨performed, within, ended⟩, answer⟩ := inductionHypothesis m₁
        have last := getLast?_bind_cons Outcome.error? refused outcomes
        refine ⟨outcome :: outcomes, ⟨.next running stepped refused performed, ?_, ?_⟩, ?_⟩
        · simpa using within
        · rw [last]
          simpa using ended
        · rw [last]
          exact answer

theorem roles_cyclesFor (budget : Nat) (m : Machine capacity μ δ) :
    (cyclesFor budget m).2.processor.roles = m.processor.roles := by
  obtain ⟨_, run, _⟩ := runs_cyclesFor budget m
  exact run.performed.roles

end Machine

end RegisterMachine

import RegisterMachine.Device.Table
import RegisterMachine.Proofs.Machine.History

/-! # Budgets add up

A run with a budget can be cut anywhere: what two budgets reach one after the other is what their sum
reaches at once, whichever way the run ends. Nothing has to be kept between the two runs but the
machine, and its host may take memory and devices away in the meantime.

The loop counts down the cycles it may still perform, while its answer is a difference of two counts of
completed instructions. `cyclesFor_add` cuts the loop, and `Performs.cycles` ties the two counts.
-/

namespace RegisterMachine.Machine

variable {capacity : Nat} {μ δ : Type}

/-- Installs in a machine what a host holds and had installed. -/
def reinstall (m host : Machine capacity μ δ) : Machine capacity μ δ :=
  { m with
    memory := host.memory
    devices := host.devices
    memoryInstalled := host.memoryInstalled
    devicesInstalled := host.devicesInstalled }

theorem reinstall_detach (m : Machine capacity μ δ) : m.detach.reinstall m = m := rfl

variable [MemoryBus μ] [DeviceBus δ] [StringsEnd μ δ] {m m' paused : Machine capacity μ δ}
  {budget first done : Nat} {error : ProgramError}

/-! ## Cutting the loop -/

theorem cyclesFor_add (first second : Nat) (m : Machine capacity μ δ) :
    cyclesFor (first + second) m =
      match cyclesFor first m with
      | (some error, ended) => (some error, ended)
      | (none, paused) => cyclesFor second paused := by
  induction first generalizing m with
  | zero => rw [Nat.zero_add, cyclesFor]
  | succ first inductionHypothesis =>
    cases running : m.running with
    | false => simp only [cyclesFor_of_stopped running]
    | true =>
      rcases stepped : m.step with ⟨outcome, m₁⟩
      rw [Nat.add_right_comm, cyclesFor_succ running stepped, cyclesFor_succ running stepped]
      cases outcome.error? with
      | some error => rfl
      | none => exact inductionHypothesis m₁

/-! ## Counting -/

theorem runFor_eq (budget : Nat) (m : Machine capacity μ δ) :
    m.runFor budget =
      (tally m.processor.cycles (cyclesFor budget m).1 (cyclesFor budget m).2,
        (cyclesFor budget m).2) := rfl

theorem cycles_le_cyclesFor (budget : Nat) (m : Machine capacity μ δ) :
    m.processor.cycles ≤ (cyclesFor budget m).2.processor.cycles := by
  obtain ⟨outcomes, run, _⟩ := runs_cyclesFor budget m
  rw [run.performed.cycles]
  exact Nat.le_add_right _ _

theorem cyclesFor_of_runFor_ok (ran : m.runFor budget = (.ok done, m')) :
    cyclesFor budget m = (none, m') ∧ m'.processor.cycles = m.processor.cycles + done := by
  have forward := cycles_le_cyclesFor budget m
  rw [runFor_eq] at ran
  cases cycles : cyclesFor budget m with
  | mk ending ended =>
    rw [cycles] at ran forward
    obtain ⟨answer, rfl⟩ := Prod.mk.inj ran
    cases ending with
    | some error => cases answer
    | none =>
      obtain rfl := Except.ok.inj answer
      exact ⟨rfl, (Nat.add_sub_cancel' forward).symm⟩

theorem cyclesFor_of_runFor_error (ran : m.runFor budget = (.error error, m')) :
    cyclesFor budget m = (some error, m') := by
  rw [runFor_eq] at ran
  cases cycles : cyclesFor budget m with
  | mk ending ended =>
    rw [cycles] at ran
    obtain ⟨answer, rfl⟩ := Prod.mk.inj ran
    cases ending with
    | some error' => rw [Except.error.inj answer]
    | none => cases answer

/-! ## Composition -/

theorem runFor_add_of_ok (ran : m.runFor first = (.ok done, paused)) (second : Nat) :
    m.runFor (first + second) =
      ((paused.runFor second).1.map (done + ·), (paused.runFor second).2) := by
  obtain ⟨cycles, counted⟩ := cyclesFor_of_runFor_ok ran
  have forward := cycles_le_cyclesFor second paused
  rw [runFor_eq, cyclesFor_add, cycles, runFor_eq]
  cases (cyclesFor second paused).1 with
  | some error => rfl
  | none =>
    have sum : (cyclesFor second paused).2.processor.cycles - m.processor.cycles =
        done + ((cyclesFor second paused).2.processor.cycles - paused.processor.cycles) := by
      omega
    simp only [tally, Except.map, sum]

theorem runFor_add_of_error (ran : m.runFor first = (.error error, m')) (second : Nat) :
    m.runFor (first + second) = (.error error, m') := by
  rw [runFor_eq, cyclesFor_add, cyclesFor_of_runFor_error ran]
  rfl

/-! ## Answers -/

/-- What a run answers, read off its cycles. -/
def answer (outcomes : List Outcome) : Except ProgramError Nat :=
  match outcomes.getLast?.bind Outcome.error? with
  | some error => .error error
  | none => .ok (outcomes.countP Outcome.completes)

theorem runs_runFor (budget : Nat) (m : Machine capacity μ δ) :
    ∃ outcomes, Runs (some budget) m outcomes (m.runFor budget).2 ∧
      (m.runFor budget).1 = answer outcomes := by
  obtain ⟨outcomes, run, ending⟩ := runs_cyclesFor budget m
  refine ⟨outcomes, run, ?_⟩
  rw [runFor_eq, ending, answer]
  cases outcomes.getLast?.bind Outcome.error? with
  | some error => rfl
  | none => simp only [tally, run.performed.cycles, Nat.add_sub_cancel_left]

/-- The number answered is that of the completed instructions; a smaller number than the budget is
answered by a machine that has stopped. -/
theorem runs_of_runFor_ok (ran : m.runFor budget = (.ok done, m')) :
    ∃ outcomes, Runs (some budget) m outcomes m' ∧ done = outcomes.countP Outcome.completes ∧
      done ≤ budget ∧ (done < budget → m'.running = false) := by
  obtain ⟨outcomes, run, answered⟩ := runs_runFor budget m
  rw [ran] at run answered
  cases accepted : outcomes.getLast?.bind Outcome.error? with
  | some error =>
    rw [answer, accepted] at answered
    cases answered
  | none =>
    rw [answer, accepted] at answered
    obtain rfl := Except.ok.inj answered
    have within : outcomes.length ≤ budget := run.within budget rfl
    have bounded := List.countP_le_length (p := Outcome.completes) (l := outcomes)
    refine ⟨outcomes, run, rfl, by omega, fun early => ?_⟩
    -- Either the run ended before its budget did, or one of its cycles was not counted.
    by_cases uncounted : outcomes.countP Outcome.completes < outcomes.length
    · exact run.performed.stopped_of_uncounted accepted uncounted
    · obtain stopped | refused | full := run.ended
      · exact stopped
      · rw [accepted] at refused
        cases refused
      · have := Option.some.inj full
        omega

/-- Runs with a budget compose, directly or through a host that takes memory and devices away and puts
them back: the second run ends in the machine that the sum of the budgets reaches, and its answer is
added to that of the first. A program error of the first run is the answer to every larger budget. What
a run answers is the number of its completed instructions, at most its budget, and less only if the
machine has stopped. `StringsEnd` stands for every cycle ending. -/
theorem runFor_composes (m : Machine capacity μ δ) (first second : Nat) :
    (∀ done paused, m.runFor first = (.ok done, paused) →
      ∀ resumed, resumed = paused ∨ resumed = paused.detach.reinstall paused →
        m.runFor (first + second) =
          ((resumed.runFor second).1.map (done + ·), (resumed.runFor second).2)) ∧
    (∀ error ended, m.runFor first = (.error error, ended) →
      m.runFor (first + second) = (.error error, ended)) ∧
    (∀ done ended, m.runFor first = (.ok done, ended) →
      ∃ outcomes, Runs (some first) m outcomes ended ∧ done = outcomes.countP Outcome.completes ∧
        done ≤ first ∧ (done < first → ended.running = false)) := by
  refine ⟨?_, ?_, ?_⟩
  · intro done paused ran resumed same
    obtain rfl : resumed = paused := same.elim id (·.trans (reinstall_detach paused))
    exact runFor_add_of_ok ran second
  · intro error ended ran
    exact runFor_add_of_error ran second
  · intro done ended ran
    exact runs_of_runFor_ok ran

/-- A string of two bytes for a device that accepts only one of them, behind an instruction that does
nothing. -/
def interruptedString : Machine 4 Memory DeviceTable where
  processor :=
    { registers :=
        ((Registers.cleared.setRunning true).set descriptorRegister 7).set pointerRegister 2
      cycles := 9 }
  memory := ⟨#[encode .nop 0 0 0, encode .syscall 0 0 0, 0x41, 0x42, 0], by decide⟩
  devices := DeviceTable.bind {} 7 (.sink (some 1) "full")

/-- The fault uses up a cycle of the second budget and completes nothing. -/
theorem interruptedString_composes :
    interruptedString.runFor 1 = (.ok 1, (interruptedString.runFor 1).2) ∧
      (interruptedString.runFor (1 + 3)).1.toOption = some 1 ∧
      (interruptedString.runFor (1 + 3)).2.running = false ∧
      let resumed := (interruptedString.runFor 1).2.detach.reinstall (interruptedString.runFor 1).2
      interruptedString.runFor (1 + 3) =
        ((resumed.runFor 3).1.map (1 + ·), (resumed.runFor 3).2) := by
  have paused : interruptedString.runFor 1 = (.ok 1, (interruptedString.runFor 1).2) := rfl
  refine ⟨paused, by decide +kernel, by decide +kernel, ?_⟩
  exact (runFor_composes interruptedString 1 3).1 _ _ paused _ (.inr rfl)

end RegisterMachine.Machine

import RegisterMachine.Proofs.Machine.Budget

/-! # The loops agree

A host can run a machine with a budget, until it stops, or with a trace, and the three loops end for
different reasons: one counts the cycles it performs, one the instructions it completes, and one looks
at the running flag only. They answer the same and leave the same machine. The reason is that an answer
is settled as soon as the machine has stopped or a program error was met: no larger budget changes it,
and it is the answer of the run without a budget, if there is one.

Runs that need not end take fuel. A run ends if it does so with some fuel, and then it ends in the same
way with every larger amount. That each of its cycles ends is what `StringsEnd` stands for.
-/

namespace RegisterMachine.Machine

variable {capacity : Nat} {μ δ : Type} [MemoryBus μ] [DeviceBus δ] [StringsEnd μ δ]
  {m m' : Machine capacity μ δ} {outcome : Outcome}

/-- The answer and the machine of a run that would not go on with a larger budget. -/
def Settled (result : Except ProgramError Nat × Machine capacity μ δ) : Prop :=
  match result.1 with
  | .error _ => True
  | .ok _ => result.2.running = false

/-! ## Runs without a budget -/

theorem cyclesUntilStopped_eq (fuel : Nat) (m : Machine capacity μ δ) :
    cyclesUntilStopped fuel m =
      match cyclesFor fuel m with
      | (some error, ended) => some (some error, ended)
      | (none, ended) => if ended.running then none else some (none, ended) := by
  induction fuel generalizing m with
  | zero => rfl
  | succ fuel inductionHypothesis =>
    cases running : m.running with
    | false => simp [cyclesUntilStopped, cyclesFor, running]
    | true =>
      rcases stepped : m.step with ⟨outcome, m₁⟩
      rw [cyclesFor_succ running stepped]
      simp only [cyclesUntilStopped, running, stepped, if_true]
      cases outcome with
      | fatal error => rfl
      | idle | executed _ | faulted _ => exact inductionHypothesis m₁

/-- A run without a budget ends with some fuel exactly if the run with that budget is settled, and then
the two are the same. -/
theorem runUntilStopped_eq_some_iff {fuel : Nat}
    {result : Except ProgramError Nat × Machine capacity μ δ} :
    m.runUntilStopped fuel = some result ↔ m.runFor fuel = result ∧ Settled result := by
  rw [runUntilStopped, cyclesUntilStopped_eq, runFor_eq]
  cases cyclesFor fuel m with
  | mk ending ended =>
    cases ending with
    | some error =>
      simp only [tally, Option.map_some, Option.some.injEq, iff_self_and]
      rintro rfl
      trivial
    | none =>
      cases running : ended.running with
      | true =>
        simp only [running, if_true, Option.map_none, reduceCtorEq, tally, false_iff]
        rintro ⟨rfl, settled⟩
        rw [Settled] at settled
        simp [running] at settled
      | false =>
        simp only [running, Bool.false_eq_true, if_false, Option.map_some, tally,
          Option.some.injEq, iff_self_and]
        rintro rfl
        exact running

theorem runs_of_runUntilStopped {fuel : Nat} {result : Except ProgramError Nat}
    (ended : m.runUntilStopped fuel = some (result, m')) :
    ∃ outcomes, Runs none m outcomes m' ∧ result = answer outcomes := by
  obtain ⟨ran, settled⟩ := runUntilStopped_eq_some_iff.1 ended
  obtain ⟨outcomes, run, answered⟩ := runs_runFor fuel m
  rw [ran] at run answered
  refine ⟨outcomes, ⟨run.performed, nofun, ?_⟩, answered⟩
  cases refused : outcomes.getLast?.bind Outcome.error? with
  | some error => exact .inr (.inl rfl)
  | none =>
    rw [answer, refused] at answered
    obtain rfl : result = _ := answered
    exact .inl settled

theorem runFor_of_settled {budget larger : Nat} (settled : Settled (m.runFor budget))
    (le : budget ≤ larger) : m.runFor larger = m.runFor budget := by
  obtain ⟨more, rfl⟩ := Nat.exists_eq_add_of_le le
  cases ran : m.runFor budget with
  | mk answer ended =>
    rw [ran] at settled
    cases answer with
    | error error => exact runFor_add_of_error ran more
    | ok done =>
      -- The second half of the run begins with a stopped machine and performs nothing.
      have stopped : ended.running = false := settled
      rw [runFor_add_of_ok ran more, runFor_eq, cyclesFor_of_stopped stopped]
      simp [tally, Except.map]

theorem runUntilStopped_unique {fuel fuel' : Nat}
    {result result' : Except ProgramError Nat × Machine capacity μ δ}
    (ended : m.runUntilStopped fuel = some result) (ended' : m.runUntilStopped fuel' = some result') :
    result = result' := by
  obtain ⟨rfl, settled⟩ := runUntilStopped_eq_some_iff.1 ended
  obtain ⟨rfl, settled'⟩ := runUntilStopped_eq_some_iff.1 ended'
  obtain le | le := Nat.le_total fuel fuel'
  · exact (runFor_of_settled settled le).symm
  · exact runFor_of_settled settled' le

/-! ## Runs with a trace -/

section Traced

variable {start fuel : Nat} {limit : Option Nat} {lines : Array TraceLine}

theorem stopped_of_uncounted_step (stepped : m.step = (outcome, m'))
    (uncounted : ∀ instruction, outcome = .executed instruction → False)
    (accepted : ∀ error, outcome = .fatal error → False) :
    outcome.error? = none ∧ m'.running = false := by
  cases outcome with
  | idle | faulted _ => exact ⟨rfl, stopped_of_step stepped rfl rfl⟩
  | executed instruction => exact (uncounted instruction rfl).elim
  | fatal error => exact (accepted error rfl).elim

omit [MemoryBus μ] [DeviceBus δ] [StringsEnd μ δ] in
theorem ongoing_of_limit {limit : Nat}
    (ongoing : (m.running && (some limit).all (m.processor.cycles - start < ·)) = true) :
    m.running = true ∧ ∃ rest, limit - (m.processor.cycles - start) = rest + 1 := by
  simp only [Option.all_some, Bool.and_eq_true, decide_eq_true_eq] at ongoing
  exact ⟨ongoing.1, Nat.exists_eq_add_one.2 (Nat.sub_pos_of_lt ongoing.2)⟩

/-- A traced run with a limit is a run with the budget that the limit still allows, or its fuel is less
than that. The limit counts completed instructions and the budget counts cycles; a cycle that makes a
difference between them is the last one of either. -/
theorem tracedCycles_limited (limit : Nat) (counted : start ≤ m.processor.cycles) :
    match tracedCycles start (some limit) fuel lines m with
    | some traced =>
      cyclesFor (limit - (m.processor.cycles - start)) m = (traced.ending, traced.machine)
    | none => fuel < limit - (m.processor.cycles - start) := by
  fun_induction tracedCycles start (some limit) fuel lines m with
  | case1 lines m ongoing =>
    obtain ⟨_, rest, left⟩ := ongoing_of_limit ongoing
    exact left ▸ Nat.succ_pos rest
  | case2 lines m ongoing fuel pc instruction m₁ stepped inductionHypothesis =>
    obtain ⟨running, rest, left⟩ := ongoing_of_limit ongoing
    have counts : m₁.processor.cycles = m.processor.cycles + 1 := cycles_of_step stepped
    have fewer : limit - (m₁.processor.cycles - start) = rest := by omega
    have behind := inductionHypothesis (by omega)
    rw [fewer] at behind
    rw [left, cyclesFor_succ running stepped]
    split at behind
    · exact behind
    · exact Nat.succ_lt_succ behind
  | case3 lines m ongoing fuel error m₁ stepped =>
    obtain ⟨running, rest, left⟩ := ongoing_of_limit ongoing
    rw [left, cyclesFor_succ running stepped]
    rfl
  | case4 lines m ongoing fuel outcome m₁ uncounted accepted stepped =>
    obtain ⟨running, rest, left⟩ := ongoing_of_limit ongoing
    obtain ⟨unrefused, stopped⟩ := stopped_of_uncounted_step stepped uncounted accepted
    rw [left, cyclesFor_succ running stepped, unrefused]
    exact cyclesFor_of_stopped stopped rest
  | case5 fuel lines m ended =>
    by_cases running : m.running
    · have spent : limit - (m.processor.cycles - start) = 0 := by
        simp only [running, Option.all_some, Bool.true_and, decide_eq_true_eq] at ended
        omega
      rw [spent, cyclesFor]
    · exact cyclesFor_of_stopped (Bool.eq_false_iff.2 running) _

theorem tracedCycles_unlimited :
    (tracedCycles start none fuel lines m).map (fun traced => (traced.ending, traced.machine)) =
      cyclesUntilStopped fuel m := by
  fun_induction tracedCycles start none fuel lines m with
  | case1 lines m ongoing =>
    have running : m.running = true := by simpa using ongoing
    simp [cyclesUntilStopped, running]
  | case2 lines m ongoing fuel pc instruction m₁ stepped inductionHypothesis =>
    have running : m.running = true := by simpa using ongoing
    rw [inductionHypothesis]
    simp [cyclesUntilStopped, running, stepped]
  | case3 lines m ongoing fuel error m₁ stepped =>
    have running : m.running = true := by simpa using ongoing
    simp [cyclesUntilStopped, running, stepped]
  | case4 lines m ongoing fuel outcome m₁ uncounted accepted stepped =>
    have running : m.running = true := by simpa using ongoing
    obtain ⟨unrefused, stopped⟩ := stopped_of_uncounted_step stepped uncounted accepted
    rw [cyclesUntilStopped_eq, cyclesFor_succ running stepped, unrefused]
    simp only [cyclesFor_of_stopped stopped, stopped]
    rfl
  | case5 fuel lines m ended =>
    have stopped : m.running = false := by simpa using ended
    rw [cyclesUntilStopped_eq, cyclesFor_of_stopped stopped]
    simp [stopped]

end Traced

theorem runTraced_limited (fuel limit : Nat) (m : Machine capacity μ δ) :
    match m.runTraced fuel (some limit) with
    | some (answer, _, m') => m.runFor limit = (answer, m')
    | none => fuel < limit := by
  have agree := @tracedCycles_limited _ _ _ _ _ _ m m.processor.cycles fuel #[] limit (Nat.le_refl _)
  rw [Nat.sub_self, Nat.sub_zero] at agree
  simp only [runTraced]
  cases ended : tracedCycles m.processor.cycles (some limit) fuel #[] m with
  | none =>
    rw [ended] at agree
    exact agree
  | some traced =>
    rw [ended] at agree
    have cycles : cyclesFor limit m = (traced.ending, traced.machine) := agree
    simp only [Option.map_some, runFor_eq, cycles]

theorem runTraced_unlimited (fuel : Nat) (m : Machine capacity μ δ) :
    (m.runTraced fuel none).map (fun (answer, _, m') => (answer, m')) = m.runUntilStopped fuel := by
  rw [runTraced, runUntilStopped,
    ← @tracedCycles_unlimited _ _ _ _ _ _ m m.processor.cycles fuel #[]]
  simp only [Option.map_map]
  rfl

/-! ## Agreement -/

structure LoopsAgree (m : Machine capacity μ δ) : Prop where
  /-- A traced run with a limit ends, and it ends like the run with that budget. -/
  traced : ∀ limit fuel, limit ≤ fuel →
    ∃ lines, m.runTraced fuel (some limit) =
      some ((m.runFor limit).1, lines, (m.runFor limit).2)
  /-- Less fuel gives no other answer. -/
  tracedOnly : ∀ limit fuel answer lines m',
    m.runTraced fuel (some limit) = some (answer, lines, m') → m.runFor limit = (answer, m')
  /-- A traced run without a limit is a run without a budget. -/
  tracedUnlimited : ∀ fuel, (m.runTraced fuel none).map (fun (answer, _, m') => (answer, m')) =
    m.runUntilStopped fuel
  /-- A settled answer is that of every larger budget and of the run without one. -/
  settled : ∀ budget, Settled (m.runFor budget) → ∀ larger, budget ≤ larger →
    m.runFor larger = m.runFor budget ∧ m.runUntilStopped larger = some (m.runFor budget)
  /-- Only then does the run without a budget end. -/
  settledOnly : ∀ fuel result, m.runUntilStopped fuel = some result →
    Settled result ∧ ∃ budget, m.runFor budget = result

theorem loopsAgree (m : Machine capacity μ δ) : LoopsAgree m where
  traced limit fuel enough := by
    have agree := runTraced_limited fuel limit m
    split at agree
    · rename_i answer lines m' ran
      exact ⟨lines, by rw [ran, agree]⟩
    · omega
  tracedOnly limit fuel answer lines m' ran := by
    have agree := runTraced_limited fuel limit m
    rwa [ran] at agree
  tracedUnlimited fuel := runTraced_unlimited fuel m
  settled budget settled larger le := by
    have same := runFor_of_settled settled le
    refine ⟨same, runUntilStopped_eq_some_iff.2 ⟨same, settled⟩⟩
  settledOnly fuel result ended := by
    obtain ⟨ran, settled⟩ := runUntilStopped_eq_some_iff.1 ended
    exact ⟨settled, fuel, ran⟩

end RegisterMachine.Machine

import RegisterMachine.Proofs.Machine.Completion
import RegisterMachine.Proofs.Machine.Loops

/-! # The recorded fault

A fault stops the machine and is recorded in its processor. Nothing but a reset takes the record away, and
a host may set a stopped machine running again. So the record is that of the last fault since the last
reset (`fault_since`). It tells why a run has stopped if the run was stopped by a fault, or if there was no
record before it (`fault_of_stopped_run`); a run that is ended by `halt` leaves the record of an earlier one
(`resumed_halt_keeps_fault`).
-/

namespace RegisterMachine

/-! ## What stops a machine -/

theorem Instruction.demand_eq_halt_iff {i : Instruction} {op : Opcode} {r : Registers} :
    i.demand op r = .finish .halt ↔ op = .halt := by
  cases op <;> simp [demand]

namespace Machine

variable {capacity : Nat} {μ δ : Type} [MemoryBus μ] [DeviceBus δ] [StringsEnd μ δ]
  {m m' served : Machine capacity μ δ} {outcomes earlier : List Outcome}

theorem demand_of_serve_halt {demand : Request} (serve : m.serve demand = (.ok .halt, served)) :
    demand = .finish .halt := by
  cases demand with
  | finish effect =>
    cases serve
    rfl
  | load _ _ | store _ _ | transfer _ _ =>
    simp only [Machine.serve] at serve
    split at serve <;> cases serve

theorem opcode?_of_step_stopped {i : Instruction} (stepped : m.step = (.executed i, m'))
    (stopped : m'.running = false) : i.opcode? = some .halt := by
  cases cycle_of_step stepped with
  | @completed fetched served word demand effect running fetch request serve =>
    obtain ⟨op, known, _, _, rfl⟩ := Instruction.request_eq_ok request
    have kept := (surrounds_of_load fetch).trans (surrounds_of_serve serve)
    have cleared : (m.processor.complete effect).registers.running = false := by
      rw [← kept.processor]
      exact stopped
    have on : m.processor.registers.running = true := running
    obtain rfl : effect = .halt := by
      simpa [Processor.running_complete, on] using cleared
    rw [known, Instruction.demand_eq_halt_iff.1 (demand_of_serve_halt serve)]

/-- A run that has come to an end, and not by a program error, was ended by a fault or by `halt`. -/
theorem Performs.last_of_stopped (performed : Performs m outcomes m') (running : m.running = true)
    (stopped : m'.running = false) (accepted : outcomes.getLast?.bind Outcome.error? = none) :
    ∃ last, outcomes.getLast? = some last ∧
      ((∃ fault, last = .faulted fault) ∨ ∃ i, last = .executed i ∧ i.opcode? = some .halt) := by
  cases last : outcomes.getLast? with
  | none =>
    -- Without a cycle the machine would be the one from the beginning, which was running.
    obtain rfl := List.getLast?_eq_none_iff.1 last
    cases performed
    rw [running] at stopped
    cases stopped
  | some outcome =>
    obtain ⟨before, active, stepped⟩ := performed.last last
    refine ⟨outcome, rfl, ?_⟩
    cases outcome with
    | idle =>
      cases cycle_of_step stepped with
      | idle inactive =>
        rw [active] at inactive
        cases inactive
    | faulted fault => exact .inl ⟨fault, rfl⟩
    | executed i => exact .inr ⟨i, rfl, opcode?_of_step_stopped stepped stopped⟩
    | fatal error =>
      rw [last] at accepted
      cases accepted

/-! ## What is recorded -/

/-- At most the last cycle of a run has faulted. -/
theorem Performs.filterMap_fault? (performed : Performs m outcomes m') :
    outcomes.filterMap Outcome.fault? = (outcomes.getLast?.bind Outcome.fault?).toList := by
  induction performed with
  | nothing | refused _ => rfl
  | @next m m₁ m' outcome outcomes running stepped accepted rest inductionHypothesis =>
    cases unfaulted : outcome.fault? with
    | none =>
      rw [List.filterMap_cons_none unfaulted, inductionHypothesis, getLast?_bind_cons _ unfaulted]
    | some fault =>
      obtain rfl := Outcome.fault?_eq_some_iff.1 unfaulted
      obtain ⟨rfl, _⟩ := rest.of_stopped (running_of_step_faulted stepped)
      rfl

/-- The machine has come about by these cycles since its processor was reset. Between them its host may
have set it running or changed anything but the record of faults, the count of instructions and the choice
of special registers. -/
inductive Since : List Outcome → Machine capacity μ δ → Prop where
  | reset (m : Machine capacity μ δ) : Since [] (m.modifyProcessor (·.reset))
  | hosted {m : Machine capacity μ δ} {outcomes : List Outcome} (since : Since outcomes m)
      (registers : Registers) (stack : Stack capacity) (memory : μ) (devices : δ)
      (memoryInstalled devicesInstalled : Bool) :
      Since outcomes
        { processor := { m.processor with registers, stack }
          memory, devices, memoryInstalled, devicesInstalled }
  | ran {m m' : Machine capacity μ δ} {earlier outcomes : List Outcome} (since : Since earlier m)
      (performed : Performs m outcomes m') : Since (earlier ++ outcomes) m'

theorem fault_since (since : Since outcomes m) :
    m.processor.fault = (outcomes.filterMap Outcome.fault?).getLast? := by
  induction since with
  | reset m => rfl
  | hosted _ _ _ _ _ _ _ inductionHypothesis => exact inductionHypothesis
  | @ran m m' earlier outcomes since performed inductionHypothesis =>
    rw [List.filterMap_append, List.getLast?_append, performed.fault, performed.filterMap_fault?,
      inductionHypothesis]
    cases outcomes.getLast?.bind Outcome.fault? <;> rfl

/-- What is recorded behind a run that has come to an end. If the last cycle has faulted, its fault is
recorded. Otherwise it has executed `halt`, and the record is that from before the run. Either way it is
the last fault since the last reset. `StringsEnd` stands for every cycle ending. -/
theorem fault_of_stopped_run {budget done : Nat} (running : m.running = true)
    (ran : m.runFor budget = (.ok done, m') ∨
      ∃ fuel, m.runUntilStopped fuel = some (.ok done, m'))
    (stopped : m'.running = false) :
    ∃ outcomes last, Performs m outcomes m' ∧ outcomes.getLast? = some last ∧
      ((∃ fault, last = .faulted fault ∧ m'.processor.fault = some fault) ∨
        ∃ i, last = .executed i ∧ i.opcode? = some .halt ∧
          m'.processor.fault = m.processor.fault) ∧
      (m.processor.fault = none → ∀ fault, m'.processor.fault = some fault ↔ last = .faulted fault) ∧
      ∀ earlier, Since earlier m →
        m'.processor.fault = ((earlier ++ outcomes).filterMap Outcome.fault?).getLast? := by
  -- A run without a budget is a run with its fuel as the budget.
  obtain ⟨budget, ran⟩ : ∃ budget, m.runFor budget = (.ok done, m') := by
    obtain limited | ⟨fuel, unlimited⟩ := ran
    · exact ⟨budget, limited⟩
    · exact ⟨fuel, (runUntilStopped_eq_some_iff.1 unlimited).1⟩
  obtain ⟨outcomes, ⟨performed, _, _⟩, accepted⟩ := runs_cyclesFor budget m
  rw [(cyclesFor_of_runFor_ok ran).1] at performed accepted
  obtain ⟨last, isLast, ended⟩ := performed.last_of_stopped running stopped accepted.symm
  have recorded := performed.fault
  rw [isLast, Option.bind_some] at recorded
  refine ⟨outcomes, last, performed, isLast, ?_, ?_, fun earlier since => ?_⟩
  · obtain ⟨fault, rfl⟩ | ⟨i, rfl, halts⟩ := ended
    · exact .inl ⟨fault, rfl, recorded⟩
    · exact .inr ⟨i, rfl, halts, recorded⟩
  · intro fresh fault
    rw [recorded, fresh, Option.or_none, Outcome.fault?_eq_some_iff]
  · exact fault_since (since.ran performed)

/-- A load from an address without a cell, and behind it `halt`. -/
def strayLoad : Machine 4 Memory Console where
  processor := { registers := Registers.cleared.setRunning true }
  memory := ⟨#[encode .load 2 9 0, encode .halt 0 0 0], by decide⟩
  devices := {}

theorem strayLoad_stops :
    ∃ outcomes last, Performs strayLoad outcomes (strayLoad.runFor 5).2 ∧
      outcomes.getLast? = some last ∧ last = .faulted (.memory (.outOfBounds 9)) := by
  have ran : strayLoad.runFor 5 = (.ok 0, (strayLoad.runFor 5).2) := by decide +kernel
  have stopped : (strayLoad.runFor 5).2.running = false := by decide +kernel
  obtain ⟨outcomes, last, performed, isLast, _, tells, _⟩ :=
    fault_of_stopped_run (by decide) (.inl ran) stopped
  exact ⟨outcomes, last, performed, isLast, (tells (by decide) _).1 (by decide +kernel)⟩

/-- The same machine after the fault, set running again at the `halt`. -/
def resumed : Machine 4 Memory Console :=
  (strayLoad.runFor 5).2.modifyProcessor fun p => (p.setPc 1).setRunning true

/-- The run was ended by `halt`, and yet a fault is recorded. -/
theorem resumed_halt_keeps_fault :
    resumed.running = true ∧ (resumed.runFor 5).1 = .ok 1 ∧ (resumed.runFor 5).2.running = false ∧
      Performs resumed [.executed (.of .halt 0 0 0)] (resumed.runFor 5).2 ∧
      (resumed.runFor 5).2.processor.fault = some (.memory (.outOfBounds 9)) := by
  have stepped : resumed.step = (.executed (.of .halt 0 0 0), (resumed.runFor 5).2) := by
    decide +kernel
  have running : resumed.running = true := by decide +kernel
  refine ⟨running, by decide +kernel, by decide +kernel, ?_, by decide +kernel⟩
  exact .next running stepped rfl (.nothing _)

end Machine

end RegisterMachine

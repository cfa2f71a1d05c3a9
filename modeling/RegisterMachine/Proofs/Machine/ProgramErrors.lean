import RegisterMachine.Device.Console
import RegisterMachine.Machine.Run
import RegisterMachine.Proofs.Machine.Cycle

/-! # Program errors leave no trace

A cycle that ends with a program error has read one word and nothing else. Over flat memory that read
is not visible either, so the machine is the one from before the cycle. It will then meet the same word
with the same registers again: the error comes back from every later call that performs at least one
cycle, whichever way the host asks for cycles and however often.

`Call` lists the three ways in which a host asks for cycles; `performAll` performs such calls one after
another and collects the replies.
-/

namespace RegisterMachine

inductive Call where
  | step
  -- Until the machine stops. The fuel bounds the computation and is not part of the call.
  | run (fuel : Nat)
  | runFor (budget : Nat)
deriving DecidableEq, Repr

inductive Reply where
  | cycle (outcome : Outcome)
  | run (answer : Except ProgramError Nat)
  -- The fuel was used up before the run ended.
  | unfinished

namespace Call

def Working : Call → Prop
  | .step => True
  | .run fuel => 0 < fuel
  | .runFor budget => 0 < budget

end Call

def Reply.error? : Reply → Option ProgramError
  | .cycle (.fatal error) | .run (.error error) => some error
  | _ => none

namespace Machine

section Calls

variable {capacity : Nat} {μ δ : Type} [MemoryBus μ] [DeviceBus δ] [StringsEnd μ δ]

def perform (m : Machine capacity μ δ) : Call → Reply × Machine capacity μ δ
  | .step => (.cycle m.step.1, m.step.2)
  | .run fuel =>
    match m.runUntilStopped fuel with
    | some (answer, m) => (.run answer, m)
    | none => (.unfinished, m)
  | .runFor budget => (.run (m.runFor budget).1, (m.runFor budget).2)

def performAll : List Call → Machine capacity μ δ → List Reply × Machine capacity μ δ
  | [], m => ([], m)
  | call :: calls, m =>
    ((m.perform call).1 :: (performAll calls (m.perform call).2).1,
     (performAll calls (m.perform call).2).2)

/-! ## A machine that refuses to go on

The step lemmas below are about a machine whose next cycle is a program error that changes nothing;
nothing else about its memory and devices is used. -/

theorem running_of_step_fatal {m m' : Machine capacity μ δ} {error : ProgramError}
    (fatal : m.step = (.fatal error, m')) : m.running = true := by
  cases cycle_of_step fatal with
  | refused running _ _ => exact running

/-- Every working call of such a machine reports the error again and changes nothing. -/
theorem perform_of_step_fatal {m : Machine capacity μ δ} {error : ProgramError}
    (fatal : m.step = (.fatal error, m)) {call : Call} (working : call.Working) :
    (m.perform call).1.error? = some error ∧ (m.perform call).2 = m := by
  have running := running_of_step_fatal fatal
  cases call with
  | step => simp only [perform, fatal, Reply.error?, and_self]
  | run fuel =>
    -- A run ends at its first cycle, so that any positive amount of fuel is enough.
    obtain ⟨rest, rfl⟩ := Nat.exists_eq_succ_of_ne_zero (Nat.ne_of_gt working)
    have ended : m.runUntilStopped (rest + 1) = some (.error error, m) := by
      simp only [runUntilStopped, cyclesUntilStopped, running, fatal, if_true, Option.map_some,
        tally]
    simp only [perform, ended, Reply.error?, and_self]
  | runFor budget =>
    obtain ⟨rest, rfl⟩ := Nat.exists_eq_succ_of_ne_zero (Nat.ne_of_gt working)
    have ended : m.runFor (rest + 1) = (.error error, m) := by
      simp only [runFor, cyclesFor, running, fatal, if_true, tally]
    simp only [perform, ended, Reply.error?, and_self]

/-- So does every sequence of working calls, by induction on the sequence. -/
theorem performAll_of_step_fatal {m : Machine capacity μ δ} {error : ProgramError}
    (fatal : m.step = (.fatal error, m)) (calls : List Call)
    (working : ∀ call ∈ calls, call.Working) :
    (performAll calls m).1.map Reply.error? = List.replicate calls.length (some error) ∧
      (performAll calls m).2 = m := by
  induction calls with
  | nil => exact ⟨rfl, rfl⟩
  | cons call calls inductionHypothesis =>
    obtain ⟨replied, kept⟩ := perform_of_step_fatal fatal (working call List.mem_cons_self)
    obtain ⟨rest, final⟩ := inductionHypothesis fun call member =>
      working call (List.mem_cons_of_mem _ member)
    constructor
    · simp only [performAll, kept, List.map_cons, replied, rest, List.length_cons,
        List.replicate_succ]
    · simp only [performAll, kept, final]

end Calls

/-! ## Over flat memory -/

variable {capacity : Nat} {δ : Type} [DeviceBus δ]

theorem step_fatal_unchanged {m m' : Machine capacity Memory δ} {error : ProgramError}
    (fatal : m.step = (.fatal error, m')) : m' = m := by
  cases cycle_of_step fatal with
  | refused _ fetch _ => exact (fetch_flat fetch).1

/-- Program errors are atomic and never skipped: the machine is exactly the one from before the cycle,
and each further call that performs a cycle reports the same error and changes nothing. -/
theorem step_fatal_persists {m m' : Machine capacity Memory δ} {error : ProgramError}
    (fatal : m.step = (.fatal error, m')) :
    m' = m ∧ ∀ calls : List Call, (∀ call ∈ calls, call.Working) →
      (performAll calls m').1.map Reply.error? = List.replicate calls.length (some error) ∧
        (performAll calls m').2 = m := by
  have unchanged : m' = m := step_fatal_unchanged fatal
  subst unchanged
  exact ⟨rfl, performAll_of_step_fatal fatal⟩

/-- The program counter divided by itself while it is zero: target, source and program counter are one
register. -/
def selfDivision : Machine 4 Memory Console where
  processor := { registers := Registers.cleared.setRunning true }
  memory := ⟨#[encode .div 0 0 0], by decide⟩
  devices := { input := [7] }

theorem selfDivision_persists :
    selfDivision.step = (.fatal (.divisionByZero 0), selfDivision) ∧
      (performAll [.step, .run 5, .runFor 3] selfDivision).1.map Reply.error? =
        [some (.divisionByZero 0), some (.divisionByZero 0), some (.divisionByZero 0)] ∧
      (performAll [.step, .run 5, .runFor 3] selfDivision).2 = selfDivision := by
  have fatal : selfDivision.step = (.fatal (.divisionByZero 0), selfDivision) := by decide
  have working : ∀ call ∈ [Call.step, .run 5, .runFor 3], call.Working := by
    simp [Call.Working]
  exact ⟨fatal, (step_fatal_persists fatal).2 _ working⟩

end Machine

end RegisterMachine

import Mathlib.Data.ENat.Lattice
import RegisterMachine.Proofs.Debugger.Lending
import RegisterMachine.Proofs.Machine.ProgramErrors

/-! # Continuous execution

After `run` each tick lets the machine perform one cycle, up to the first point at which it has to stop:
the machine does not run, its program counter stands at a breakpoint, or its next cycle is a program
error. `firstStop` is the number of cycles before that point, infinite if there is none.

Up to the stopping point the session keeps step with the machine (`underway_ticks`). The tick behind it
ends continuous execution and records a program error, if that is why (`ended_tick`), and all later
ticks do nothing. A fault ends continuous execution a tick earlier, with the cycle that leaves the
machine stopped; this is why `Underway` does not promise that the session is running.
-/

namespace RegisterMachine.Debugger.Session

variable {s t : Session} {n k : Nat}

/-! ## Stopping points -/

/-- The machine of the session after a number of cycles with memory and console installed. -/
def trajectory (s : Session) (j : Nat) : Workstation :=
  (fun w : Workstation => w.step.2)^[j] s.machine.install

theorem trajectory_succ (s : Session) (j : Nat) :
    s.trajectory (j + 1) = (s.trajectory j).step.2 :=
  Function.iterate_succ_apply' _ _ _

def StopsAt (s : Session) (j : Nat) : Prop :=
  (s.trajectory j).running = false ∨
    s.breakpoints.contains (s.trajectory j).processor.pc = true ∨
    (s.trajectory j).step.1.error?.isSome = true

instance (s : Session) (j : Nat) : Decidable (s.StopsAt j) :=
  inferInstanceAs (Decidable (_ ∨ _ ∨ _))

/-- The reason to stop after `j` cycles is a program error, and neither a stopped machine nor a
breakpoint. -/
def RefusesAt (s : Session) (j : Nat) (error : ProgramError) : Prop :=
  (s.trajectory j).running = true ∧
    s.breakpoints.contains (s.trajectory j).processor.pc = false ∧
    (s.trajectory j).step.1 = .fatal error

/-- The number of cycles before the first stopping point, infinite if there is none. -/
noncomputable def firstStop (s : Session) : ℕ∞ :=
  ⨅ (j : ℕ) (_ : s.StopsAt j), (j : ℕ∞)

theorem firstStop_eq (stops : s.StopsAt k) (passes : ∀ j < k, ¬ s.StopsAt j) :
    s.firstStop = k := by
  refine le_antisymm (iInf₂_le k stops) (le_iInf₂ fun j stops => ?_)
  exact Nat.cast_le.2 (not_lt.1 fun before => passes j before stops)

theorem not_stopsAt_of_lt {j : Nat} (before : (j : ℕ∞) < s.firstStop) : ¬ s.StopsAt j := by
  intro stops
  have earliest : s.firstStop ≤ j := iInf₂_le j stops
  exact absurd before (not_lt.2 earliest)

theorem stopsAt_firstStop (first : s.firstStop = k) : s.StopsAt k := by
  by_contra passes
  -- Every stopping point would come later than the first one.
  have later : ((k + 1 : ℕ) : ℕ∞) ≤ s.firstStop := by
    refine le_iInf₂ fun j stops => ?_
    have bound : s.firstStop ≤ j := iInf₂_le j stops
    rw [first, Nat.cast_le] at bound
    have distinct : j ≠ k := by
      rintro rfl
      exact passes stops
    rw [Nat.cast_le]
    omega
  rw [first, Nat.cast_le] at later
  omega

/-! ## Ticks before and at a stopping point -/

theorem step_of_active (unblocked : s.fatal = none) (active : s.machine.running = true) :
    s.step = s.cycle := by
  simp only [step, unblocked, active, if_true]

theorem tick_of_paused (paused : s.running = false) : s.tick = s := by
  simp [tick, paused]

/-- A session `t` that has performed `n` ticks of the continuous execution of `s`, none of them at a
stopping point. -/
structure Underway (s t : Session) (n : Nat) : Prop where
  mirrors : t.Mirrors (s.trajectory n)
  breakpoints : t.breakpoints = s.breakpoints
  unblocked : t.fatal = none
  running : t.running = true ∨ (s.trajectory n).running = false

namespace Underway

theorem running_of_active (underway : Underway s t n)
    (active : (s.trajectory n).running = true) : t.running = true := by
  obtain running | stopped := underway.running
  · exact running
  · rw [active] at stopped
    cases stopped

theorem tick_eq_cycle (underway : Underway s t n) (active : (s.trajectory n).running = true)
    (passable : s.breakpoints.contains (s.trajectory n).processor.pc = false) :
    t.tick = t.cycle := by
  have running := underway.running_of_active active
  have able : t.machine.running = true := underway.mirrors.running.symm.trans active
  have free : t.breakpoints.contains t.machine.processor.pc = false := by
    rw [underway.breakpoints, underway.mirrors.shows.processor]
    exact passable
  have due : t.due = true := by
    simp only [Session.due, running, able, underway.unblocked, free]
    rfl
  rw [tick_of_due due, step_of_active underway.unblocked able]

theorem tick (underway : Underway s t n) (passes : ¬ s.StopsAt n) :
    Underway s t.tick (n + 1) := by
  simp only [StopsAt, not_or, Bool.not_eq_false, Bool.not_eq_true, Option.isSome_eq_false_iff,
    Option.isNone_iff_eq_none] at passes
  obtain ⟨active, passable, accepted⟩ := passes
  rw [underway.tick_eq_cycle active passable]
  rcases stepped : (s.trajectory n).step with ⟨outcome, after⟩
  have told := underway.mirrors.outcome
  rw [stepped] at told accepted
  refine ⟨?_, ?_, ?_, ?_⟩
  · rw [trajectory_succ]
    exact mirrors_cycle underway.mirrors
  · rw [breakpoints_cycle, underway.breakpoints]
  · rw [fatal_cycle, ← told, underway.unblocked, accepted]
    rfl
  · rw [trajectory_succ, running_cycle, ← told, stepped]
    cases completes : outcome.completes with
    | true => exact .inl (by rw [underway.running_of_active active, Bool.and_true])
    | false => exact .inr (Machine.stopped_of_step stepped completes accepted)

end Underway

theorem underway_ticks (unblocked : s.fatal = none) (passes : ∀ j < n, ¬ s.StopsAt j) :
    Underway s (tick^[n] s.run) n := by
  induction n with
  | zero => exact ⟨mirrors_install s, rfl, unblocked, .inl rfl⟩
  | succ n inductionHypothesis =>
    rw [Function.iterate_succ_apply']
    have underway := inductionHypothesis fun j before => passes j (Nat.lt_succ_of_lt before)
    exact underway.tick (passes n (Nat.lt_succ_self n))

/-- A session `t` in which the continuous execution of `s` has ended after `k` cycles. -/
structure Ended (s t : Session) (k : Nat) : Prop where
  shows : t.Shows (s.trajectory k)
  paused : t.running = false
  fatal : ∀ error, t.fatal = some error ↔ s.RefusesAt k error

theorem Underway.ended_of_not_due (underway : Underway s t k) (late : t.due = false)
    (accepted : ∀ error, ¬ s.RefusesAt k error) : Ended s t.tick k := by
  obtain ⟨status, ended⟩ := tick_of_not_due late
  rw [ended]
  have shows := underway.mirrors.shows
  refine ⟨⟨shows.processor, shows.memory, shows.input⟩, rfl, fun error => ?_⟩
  have unblocked : t.fatal = none := underway.unblocked
  simp [unblocked, accepted error]

theorem Underway.ended_tick (underway : Underway s t k) (stops : s.StopsAt k) :
    Ended s t.tick k := by
  have able : t.machine.running = (s.trajectory k).running := underway.mirrors.running.symm
  have free : t.breakpoints.contains t.machine.processor.pc =
      s.breakpoints.contains (s.trajectory k).processor.pc := by
    rw [underway.breakpoints, underway.mirrors.shows.processor]
  cases active : (s.trajectory k).running with
  | false =>
    refine underway.ended_of_not_due ?_ ?_
    · simp [due, able, active]
    · rintro error ⟨running, _, _⟩
      rw [active] at running
      cases running
  | true =>
    cases passable : s.breakpoints.contains (s.trajectory k).processor.pc with
    | true =>
      refine underway.ended_of_not_due ?_ ?_
      · simp [due, free, passable]
      · rintro error ⟨_, passed, _⟩
        rw [passable] at passed
        cases passed
    | false =>
      -- Only a program error is left, and its cycle changes nothing.
      obtain ⟨error, reported⟩ : ∃ error, (s.trajectory k).step.1.error? = some error := by
        simpa [StopsAt, active, passable, Option.isSome_iff_exists] using stops
      have refused := Outcome.error?_eq_some_iff.1 reported
      have stepped : (s.trajectory k).step = (.fatal error, (s.trajectory k).step.2) :=
        Prod.ext refused rfl
      have unchanged := Machine.step_fatal_unchanged stepped
      have told := underway.mirrors.outcome
      rw [refused] at told
      rw [underway.tick_eq_cycle active passable]
      refine ⟨?_, ?_, fun error' => ?_⟩
      · have shows := (mirrors_cycle underway.mirrors).shows
        rwa [unchanged] at shows
      · rw [running_cycle, ← told]
        exact Bool.and_false _
      · rw [fatal_cycle, ← told]
        simp [RefusesAt, active, passable, refused, Outcome.error?]

/-! ## All ticks -/

/-- Continuous execution reaches the first stopping point and no further. After `run` and `n` ticks the
session shows the machine behind `n` cycles, or behind those up to the first stopping point if that comes
earlier, and none of these cycles is one at a breakpoint. Behind the stopping point continuous execution
has ended, and a program error is recorded exactly if it is the reason. Ticks of a session that does not
execute continuously change nothing. -/
theorem ticks_reach_firstStop (unblocked : s.fatal = none) (n : Nat) :
    (tick^[n] s.run).Shows (s.trajectory (min (n : ℕ∞) s.firstStop).toNat) ∧
    (∀ j : ℕ, (j : ℕ∞) < min (n : ℕ∞) s.firstStop →
      s.breakpoints.contains (s.trajectory j).processor.pc = false) ∧
    (s.firstStop < n → (tick^[n] s.run).running = false) ∧
    (∀ error, (tick^[n] s.run).fatal = some error ↔
      s.firstStop < n ∧ s.RefusesAt s.firstStop.toNat error) ∧
    ∀ t : Session, t.running = false → ∀ count, tick^[count] t = t := by
  have still (t : Session) (paused : t.running = false) (count : ℕ) : tick^[count] t = t :=
    Function.iterate_fixed (tick_of_paused paused) count
  have passable (j : ℕ) (before : (j : ℕ∞) < min (n : ℕ∞) s.firstStop) :
      s.breakpoints.contains (s.trajectory j).processor.pc = false := by
    have passes := not_stopsAt_of_lt (before.trans_le (min_le_right _ _))
    simp only [StopsAt, not_or, Bool.not_eq_true] at passes
    exact passes.2.1
  obtain ahead | behind := le_or_gt (n : ℕ∞) s.firstStop
  · have underway : Underway s (tick^[n] s.run) n :=
      underway_ticks unblocked fun j before =>
        not_stopsAt_of_lt ((Nat.cast_lt.2 before).trans_le ahead)
    have early : ¬ s.firstStop < n := not_lt.2 ahead
    refine ⟨?_, passable, fun behind => absurd behind early, fun error => ?_, still⟩
    · rw [min_eq_left ahead, ENat.toNat_natCast]
      exact underway.mirrors.shows
    · simp [underway.unblocked, early]
  · obtain ⟨k, first⟩ := ENat.ne_top_iff_exists.1 (ne_top_of_lt behind)
    rw [← first, Nat.cast_lt] at behind
    have underway : Underway s (tick^[k] s.run) k :=
      underway_ticks unblocked fun j before =>
        not_stopsAt_of_lt (first ▸ Nat.cast_lt.2 before)
    have ended := underway.ended_tick (stopsAt_firstStop first.symm)
    rw [← Function.iterate_succ_apply' tick] at ended
    -- The ticks behind the one that ended continuous execution do nothing.
    have reached : tick^[n] s.run = tick^[k + 1] s.run := by
      rw [← Nat.sub_add_cancel behind, Function.iterate_add_apply]
      exact still _ ended.paused _
    rw [← first, reached, ENat.toNat_natCast]
    refine ⟨?_, by rwa [first], fun _ => ended.paused, fun error => ?_, still⟩
    · rw [min_eq_right (Nat.cast_le.2 behind.le), ENat.toNat_natCast]
      exact ended.shows
    · rw [ended.fatal error, Nat.cast_lt, and_iff_right behind]

/-- A program error behind two instructions, with a breakpoint that is never reached and a byte of output
from before. -/
def lateDivision : Session where
  machine :=
    { processor := { registers := Registers.cleared.setRunning true }
      memory := ⟨#[encode .nop 0 0 0, encode .movi 5 7 0, encode .divi 5 0 0], by decide⟩
      devices := { output := #[0x41] }
      memoryInstalled := false
      devicesInstalled := false }
  program := []
  loadAddress := 0
  breakpoints := ⟨[3]⟩

theorem lateDivision_stops :
    lateDivision.fatal = none ∧ lateDivision.firstStop = (2 : ℕ) ∧
      (tick^[5] lateDivision.run).Shows (lateDivision.trajectory 2) ∧
      (tick^[5] lateDivision.run).running = false ∧
      (tick^[5] lateDivision.run).fatal = some (.divisionByZero 2) := by
  have first : lateDivision.firstStop = (2 : ℕ) :=
    firstStop_eq (by decide +kernel) (by decide +kernel)
  have refuses : lateDivision.RefusesAt 2 (.divisionByZero 2) := by
    refine ⟨?_, ?_, ?_⟩ <;> decide +kernel
  have late : lateDivision.firstStop < (5 : ℕ) := by
    rw [first]
    exact Nat.cast_lt.2 (by decide)
  obtain ⟨shows, _, paused, fatal, _⟩ := ticks_reach_firstStop (s := lateDivision) rfl 5
  rw [min_eq_right late.le, first, ENat.toNat_natCast] at shows
  refine ⟨rfl, first, shows, paused late, (fatal _).2 ⟨late, ?_⟩⟩
  rwa [first, ENat.toNat_natCast]

end RegisterMachine.Debugger.Session

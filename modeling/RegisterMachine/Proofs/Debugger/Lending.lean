import RegisterMachine.Debugger.Session
import RegisterMachine.Proofs.Machine.DeviceMap
import RegisterMachine.Proofs.Machine.Restart

/-! # The machine of a session

A session keeps its machine with nothing installed, lends memory and console to it for each cycle, and
takes the output away afterwards. `Mirrors` compares such a machine with one that has both installed all
the time and keeps its output: the two are the same but for the output that was taken away, and a cycle
of the session is a cycle of the other (`mirrors_cycle`).
-/

namespace RegisterMachine

def Console.drained (c : Console) : Console :=
  { c with output := #[] }

theorem Console.behind_drained (c : Console) (earlier : Array UInt8) :
    c.drained.behind (earlier ++ c.output) = c.behind earlier := by
  simp [drained, behind]

namespace Debugger.Session

variable {s : Session} {w : Workstation}

/-! ## The start -/

theorem start_of_fits {program : List Word} {c : Configuration} {roles : Roles}
    (checked : c.roles.check = .ok roles)
    (fits : program.length ≤ (Memory.zeroed c.memorySize).available c.loadAddress) :
    start program c =
      .ok
        { machine := .prepared roles c.memorySize program c.loadAddress true
          program
          loadAddress := c.loadAddress } := by
  unfold start
  rw [checked]
  exact if_pos fits

theorem eq_of_start {program : List Word} {c : Configuration}
    (started : start program c = .ok s) :
    ∃ roles, c.roles.check = .ok roles ∧
      program.length ≤ (Memory.zeroed c.memorySize).available c.loadAddress ∧
      s =
        { machine := .prepared roles c.memorySize program c.loadAddress true
          program
          loadAddress := c.loadAddress } := by
  unfold start at started
  split at started
  · cases started
  · rename_i roles checked
    dsimp only at started
    split at started
    · rename_i fits
      exact ⟨roles, checked, fits, (Except.ok.inj started).symm⟩
    · cases started

/-! ## Parts of a cycle -/

/-- Collecting takes the output away from the machine and adds its text, also where there is none. -/
theorem collect_eq (s : Session) :
    s.collect =
      { s with
        machine := s.machine.mapDevices Console.drained
        output := s.output ++ Text.Utf8.decodeLossy s.machine.devices.output.toList } := by
  obtain ⟨⟨processor, memory, ⟨input, ⟨output⟩, atEnd⟩, memoryInstalled, devicesInstalled⟩, _, _, _, _,
    _, _, _, text, _⟩ := s
  cases output with
  | nil =>
    have silent : text ++ Text.Utf8.decodeLossy [] = text := String.append_empty
    simp only [silent]
    rfl
  | cons byte bytes => rfl

theorem machine_record (s : Session) (pc : Word) (outcome : Outcome) :
    (s.record pc outcome).machine = s.machine := by
  cases outcome <;> rfl

theorem output_record (s : Session) (pc : Word) (outcome : Outcome) :
    (s.record pc outcome).output = s.output := by
  cases outcome <;> rfl

theorem breakpoints_record (s : Session) (pc : Word) (outcome : Outcome) :
    (s.record pc outcome).breakpoints = s.breakpoints := by
  cases outcome <;> rfl

theorem program_record (s : Session) (pc : Word) (outcome : Outcome) :
    (s.record pc outcome).program = s.program ∧
      (s.record pc outcome).loadAddress = s.loadAddress := by
  cases outcome <;> exact ⟨rfl, rfl⟩

theorem fatal_record (s : Session) (pc : Word) (outcome : Outcome) :
    (s.record pc outcome).fatal = outcome.error?.or s.fatal := by
  cases outcome <;> rfl

/-- Only a completed instruction lets continuous execution go on. -/
theorem running_record (s : Session) (pc : Word) (outcome : Outcome) :
    (s.record pc outcome).running = (s.running && outcome.completes) := by
  cases outcome with
  | executed _ => exact (Bool.and_true _).symm
  | idle | faulted _ | fatal _ => exact (Bool.and_false _).symm

/-! ## A cycle -/

theorem cycle_eq (s : Session) :
    s.cycle =
      ({ s with machine := s.machine.install.step.2.detach }.record s.machine.processor.pc
        s.machine.install.step.1).collect := by
  rw [cycle, Machine.lend_eq]

theorem machine_cycle (s : Session) :
    s.cycle.machine = (s.machine.install.step.2.detach).mapDevices Console.drained := by
  rw [cycle_eq, collect_eq, machine_record]

theorem output_cycle (s : Session) :
    s.cycle.output =
      s.output ++ Text.Utf8.decodeLossy s.machine.install.step.2.devices.output.toList := by
  rw [cycle_eq, collect_eq, machine_record, output_record]
  rfl

theorem breakpoints_cycle (s : Session) : s.cycle.breakpoints = s.breakpoints := by
  rw [cycle_eq, collect_eq]
  exact breakpoints_record _ _ _

theorem program_cycle (s : Session) :
    s.cycle.program = s.program ∧ s.cycle.loadAddress = s.loadAddress := by
  rw [cycle_eq, collect_eq]
  exact program_record _ _ _

theorem fatal_cycle (s : Session) :
    s.cycle.fatal = s.machine.install.step.1.error?.or s.fatal := by
  rw [cycle_eq, collect_eq]
  exact fatal_record _ _ _

theorem running_cycle (s : Session) :
    s.cycle.running = (s.running && s.machine.install.step.1.completes) := by
  rw [cycle_eq, collect_eq]
  exact running_record _ _ _

/-! ## A tick -/

def due (s : Session) : Bool :=
  s.running && s.machine.running && s.fatal.isNone && !s.breakpoints.contains s.machine.processor.pc

theorem tick_of_due (due : s.due = true) : s.tick = s.step := by
  simp only [Session.due, Bool.and_eq_true, Bool.not_eq_true', Option.isNone_iff_eq_none] at due
  obtain ⟨⟨⟨running, active⟩, unblocked⟩, passable⟩ := due
  simp [tick, running, active, unblocked, passable]

/-- A tick that takes no step only ends continuous execution. -/
theorem tick_of_not_due (late : s.due = false) :
    ∃ status, s.tick = { s with running := false, status } := by
  unfold tick
  split
  · split
    · exact ⟨_, rfl⟩
    · rename_i running able
      split
      · exact ⟨_, rfl⟩
      · rename_i passable
        simp_all [Session.due]
  · rename_i paused
    exact ⟨s.status, by rw [← Bool.eq_false_iff.2 paused]⟩

/-! ## Comparison with a machine of its own -/

/-- The session shows the state of a machine: the whole processor, every cell and the unread input. -/
structure Shows (s : Session) (w : Workstation) : Prop where
  processor : s.machine.processor = w.processor
  memory : s.machine.memory = w.memory
  input : s.machine.devices.input = w.devices.input

/-- The machine is that of the session with everything installed and all earlier output kept. -/
def Mirrors (s : Session) (w : Workstation) : Prop :=
  ∃ earlier : Array UInt8, w = s.machine.install.mapDevices (Console.behind earlier)

theorem Mirrors.shows (mirrors : s.Mirrors w) : s.Shows w := by
  obtain ⟨earlier, rfl⟩ := mirrors
  exact ⟨rfl, rfl, rfl⟩

theorem Mirrors.running (mirrors : s.Mirrors w) : w.running = s.machine.running := by
  obtain ⟨earlier, rfl⟩ := mirrors
  rfl

theorem mirrors_install (s : Session) : s.Mirrors s.machine.install := by
  refine ⟨#[], ?_⟩
  simp [Machine.mapDevices, Console.behind]

theorem Mirrors.outcome (mirrors : s.Mirrors w) : w.step.1 = s.machine.install.step.1 := by
  obtain ⟨earlier, rfl⟩ := mirrors
  rw [Machine.step_mapDevices (deviceMap_behind earlier)]
  rfl

theorem mirrors_cycle (mirrors : s.Mirrors w) : s.cycle.Mirrors w.step.2 := by
  obtain ⟨earlier, rfl⟩ := mirrors
  rw [Machine.step_mapDevices (deviceMap_behind earlier)]
  have installed := Machine.install_detach_step s.machine
  -- What the session takes away after this cycle joins the output taken away before.
  refine ⟨earlier ++ s.machine.install.step.2.devices.output, ?_⟩
  rw [machine_cycle]
  show s.machine.install.step.2.mapDevices _ =
    (s.machine.install.step.2.detach.install.mapDevices Console.drained).mapDevices _
  rw [installed]
  simp [Machine.mapDevices, Console.behind_drained]

end Debugger.Session

end RegisterMachine

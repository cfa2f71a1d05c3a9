import RegisterMachine.Memory.Monitored
import RegisterMachine.Proofs.Debugger.Reset
import RegisterMachine.Proofs.Machine.Loops
import RegisterMachine.Proofs.Machine.StackPointer
import RegisterMachine.Proofs.Playground.Calls

/-! # Special registers in the hands of a host

The special registers are chosen once, when a processor is made. Whatever its host does with it afterwards,
the choice stays in force (`Hosted.roles`): cycles, runs, resets and changes from outside keep it, over every
memory and with any devices, and it does not matter what is installed, when, and of what kind. A debugging
session keeps the choice of its configuration in the same way, and a playground that of the last call of
`configure` that succeeded (`Playground.chosen`).
-/

namespace RegisterMachine

/-! ## Any host -/

/-- The machine has come about from a new processor by what its host has done with it. At first nothing is
installed. What is installed later need not be of the kind that was installed before. -/
inductive Hosted {capacity : Nat} (origin : Processor capacity) :
    {μ δ : Type} → Machine capacity μ δ → Prop where
  | new {μ δ : Type} (memory : μ) (devices : δ) : Hosted origin ⟨origin, memory, devices, false, false⟩
  | step {μ δ : Type} [MemoryBus μ] [DeviceBus δ] [StringsEnd μ δ] {m : Machine capacity μ δ}
      (hosted : Hosted origin m) : Hosted origin m.step.2
  | runFor {μ δ : Type} [MemoryBus μ] [DeviceBus δ] [StringsEnd μ δ] {m : Machine capacity μ δ}
      (hosted : Hosted origin m) (budget : Nat) : Hosted origin (m.runFor budget).2
  | runUntilStopped {μ δ : Type} [MemoryBus μ] [DeviceBus δ] [StringsEnd μ δ]
      {m m' : Machine capacity μ δ} {fuel : Nat} {answer : Except ProgramError Nat}
      (hosted : Hosted origin m) (ran : m.runUntilStopped fuel = some (answer, m')) : Hosted origin m'
  | reset {μ δ : Type} {m : Machine capacity μ δ} (hosted : Hosted origin m) :
      Hosted origin (m.modifyProcessor (·.reset))
  | change {μ δ : Type} {m : Machine capacity μ δ} (hosted : Hosted origin m)
      (change : ProcessorChange) : Hosted origin (m.modifyProcessor (·.change change))
  | load {μ δ : Type} [MemoryBus μ] {m : Machine capacity μ δ} (hosted : Hosted origin m)
      (address : Word) : Hosted origin (m.load address).2
  | store {μ δ : Type} [MemoryBus μ] {m : Machine capacity μ δ} (hosted : Hosted origin m)
      (address value : Word) : Hosted origin (m.store address value).2
  | installMemory {μ μ' δ : Type} {m : Machine capacity μ δ} (hosted : Hosted origin m) (memory : μ') :
      Hosted origin ⟨m.processor, memory, m.devices, true, m.devicesInstalled⟩
  | installDevices {μ δ δ' : Type} {m : Machine capacity μ δ} (hosted : Hosted origin m)
      (devices : δ') : Hosted origin ⟨m.processor, m.memory, devices, m.memoryInstalled, true⟩
  | uninstallMemory {μ δ : Type} {m : Machine capacity μ δ} (hosted : Hosted origin m) :
      Hosted origin { m with memoryInstalled := false }
  | uninstallDevices {μ δ : Type} {m : Machine capacity μ δ} (hosted : Hosted origin m) :
      Hosted origin { m with devicesInstalled := false }
  | detach {μ δ : Type} {m : Machine capacity μ δ} (hosted : Hosted origin m) : Hosted origin m.detach

theorem Hosted.roles {capacity : Nat} {origin : Processor capacity} {μ δ : Type}
    {m : Machine capacity μ δ} (hosted : Hosted origin m) :
    m.processor.roles = origin.roles := by
  induction hosted with
  | new _ _ => rfl
  | step _ inductionHypothesis => exact (Machine.roles_of_step rfl).trans inductionHypothesis
  | runFor _ budget inductionHypothesis =>
    exact (Machine.roles_cyclesFor budget _).trans inductionHypothesis
  | @runUntilStopped _ _ _ _ _ m m' fuel answer _ ran inductionHypothesis =>
    -- A run that ends is a run with its fuel as the budget.
    have limited := (Machine.runUntilStopped_eq_some_iff.1 ran).1
    have kept := Machine.roles_cyclesFor fuel m
    rw [Machine.runFor_eq] at limited
    rw [(Prod.mk.inj limited).2] at kept
    exact kept.trans inductionHypothesis
  | change _ change inductionHypothesis =>
    exact (Processor.roles_change _ change).trans inductionHypothesis
  | @load _ _ _ m _ address inductionHypothesis =>
    rw [(Machine.surrounds_load m address).processor, inductionHypothesis]
  | @store _ _ _ m _ address value inductionHypothesis =>
    rw [(Machine.surrounds_store m address value).processor, inductionHypothesis]
  | reset _ inductionHypothesis | installMemory _ _ inductionHypothesis
  | installDevices _ _ inductionHypothesis | uninstallMemory _ inductionHypothesis
  | uninstallDevices _ inductionHypothesis | detach _ inductionHypothesis =>
    exact inductionHypothesis

theorem Hosted.hasRoles {capacity pc sp : Nat} {roles : Roles}
    (accepted : Roles.ofIndices pc sp = .ok roles) {μ δ : Type} {m : Machine capacity μ δ}
    (hosted : Hosted { roles } m) : m.processor.HasRoles pc sp := by
  apply Processor.hasRoles_of_ofIndices
  rw [hosted.roles]
  exact accepted

/-! ## Sessions and playgrounds -/

namespace Debugger.Session

theorem hasRoles_actAll {program : List Word} {c : Configuration} {s : Session}
    (started : Session.start program c = .ok s) (history : List Action) :
    (s.actAll history).machine.processor.HasRoles c.roles.pc.toNat c.roles.sp.toNat := by
  obtain ⟨roles, accepted, _, rfl⟩ := eq_of_start started
  have kept := ((StartedWith.prepared program c roles).actAll history).made.roles
  apply Processor.hasRoles_of_ofIndices
  rw [kept]
  exact accepted

end Debugger.Session

namespace Playground

def chosenAfter (chosen : Nat × Nat) : Call → Nat × Nat
  | .configure pc sp => if Roles.Valid pc sp then (pc, sp) else chosen
  | .loadImage _ | .step | .run _ | .reset | .pushInput _ | .takeOutput => chosen

/-- The numbers that the last successful call of `configure` has chosen, and the usual ones without such a
call. -/
def chosen (calls : List Call) : Nat × Nat :=
  calls.foldl chosenAfter (0, 1)

variable {p : Playground}

theorem configure_succeeds_iff (p : Playground) (pc sp : Nat) :
    (∃ q, p.configure pc sp = (.ok (), q)) ↔ Roles.Valid pc sp := by
  rw [← Roles.exists_ofIndices_iff, configure]
  cases Roles.ofIndices pc sp <;> simp

theorem hasRoles_perform {numbers : Nat × Nat}
    (has : p.machine.processor.HasRoles numbers.1 numbers.2) (call : Call) :
    (p.perform call).machine.processor.HasRoles (chosenAfter numbers call).1
      (chosenAfter numbers call).2 := by
  cases call with
  | configure pc sp =>
    simp only [perform, configure, chosenAfter]
    cases accepted : Roles.ofIndices pc sp with
    | error e =>
      have invalid : ¬ Roles.Valid pc sp := by
        simp [← Roles.exists_ofIndices_iff, accepted]
      rw [if_neg invalid]
      exact has
    | ok roles =>
      rw [if_pos (Roles.exists_ofIndices_iff.1 ⟨roles, accepted⟩)]
      exact Processor.hasRoles_of_ofIndices accepted
  | loadImage text =>
    refine has.congr ?_
    simp only [perform, loadImage]
    split
    · rfl
    · split <;> rfl
  | step =>
    refine has.congr ?_
    show p.machine.install.step.2.processor.roles = p.machine.install.processor.roles
    exact Machine.roles_of_step rfl
  | run budget =>
    refine has.congr ?_
    rw [perform, snd_run]
    exact Machine.roles_cyclesFor budget p.machine.install
  | reset | pushInput _ | takeOutput => exact has.congr rfl

theorem hasRoles_performAll {numbers : Nat × Nat}
    (has : p.machine.processor.HasRoles numbers.1 numbers.2) (calls : List Call) :
    (p.performAll calls).machine.processor.HasRoles (calls.foldl chosenAfter numbers).1
      (calls.foldl chosenAfter numbers).2 := by
  induction calls generalizing p numbers with
  | nil => exact has
  | cons call calls inductionHypothesis => exact inductionHypothesis (hasRoles_perform has call)

end Playground

/-! ## The choice stays -/

open Debugger (Session Action)
open Debugger.Session (splitLetter meddledHistory)

/-- Exactly two numbers that name two different registers can be chosen for the program counter and the stack
pointer. They are in force behind everything that a host does with a processor made for them, as the usual
ones are without a choice, and no cycle of any machine lets the program counter's own move reach the stack
pointer. A session keeps the numbers of its configuration, whatever happens to it, and a playground those of
the last call of `configure` that succeeded. `StringsEnd` stands for every cycle ending. -/
theorem special_registers_stay (capacity pc sp : Nat) :
    ((∃ roles, Roles.ofIndices pc sp = .ok roles) ↔ Roles.Valid pc sp) ∧
      (∀ roles, Roles.ofIndices pc sp = .ok roles →
        ∀ (μ δ : Type) (m : Machine capacity μ δ), Hosted { roles } m →
          m.processor.HasRoles pc sp) ∧
      (∀ (μ δ : Type) (m : Machine capacity μ δ), Hosted {} m → m.processor.HasRoles 0 1) ∧
      (∀ (μ δ : Type) [MemoryBus μ] [DeviceBus δ] [StringsEnd μ δ] (m : Machine capacity μ δ),
        m.CounterMovesAlone) ∧
      (∀ program c s, Session.start program c = .ok s → ∀ history : List Action,
        (s.actAll history).machine.processor.HasRoles c.roles.pc.toNat c.roles.sp.toNat) ∧
      (∀ p : Playground, (∃ q, p.configure pc sp = (.ok (), q)) ↔ Roles.Valid pc sp) ∧
      ∀ calls : List Playground.Call,
        (Playground.performAll {} calls).machine.processor.HasRoles (Playground.chosen calls).1
          (Playground.chosen calls).2 := by
  refine ⟨Roles.exists_ofIndices_iff, fun roles accepted μ δ m hosted => hosted.hasRoles accepted,
    fun μ δ m hosted => hosted.hasRoles rfl, fun μ δ _ _ _ m => m.counterMovesAlone,
    fun program c s started history => Session.hasRoles_actAll started history,
    fun p => p.configure_succeeds_iff pc sp, fun calls => ?_⟩
  exact Playground.hasRoles_performAll (Processor.hasRoles_of_ofIndices rfl) calls

/-- Register 11 counts and register 9 points to the stack. -/
def exchangedRoles : Roles where
  pc := ⟨11, by decide⟩
  sp := ⟨9, by decide⟩
  distinct := by decide

/-- Gives register 9 a value, adds one to it, and halts. -/
def stackingWords : Memory :=
  ⟨#[encode .movi 9 7 0, encode .addi 9 1 0, encode .halt 0 0 0], by decide⟩

/-- A new processor, set running and with flat memory and a console installed. -/
def lentFirst : Machine 4 Memory Console where
  processor := Processor.change { roles := exchangedRoles } (.flags ⟨Flags.running⟩)
  memory := stackingWords
  devices := {}

/-- The same processor one cycle later, with monitored memory and no devices. -/
def lentAgain : Machine 4 MonitoredMemory Console where
  processor := lentFirst.step.2.processor
  memory := { memory := stackingWords }
  devices := lentFirst.step.2.devices
  devicesInstalled := false

theorem hosted_lentAgain : Hosted { roles := exchangedRoles } lentAgain := by
  have first : Hosted { roles := exchangedRoles } lentFirst :=
    (((Hosted.new () ()).installMemory stackingWords).installDevices ({} : Console)).change
      (.flags ⟨Flags.running⟩)
  exact first.step.detach.installMemory _

/-- The session and the playground have been given other numbers. Of the three calls of `configure` only the
first succeeds. -/
theorem exchangedRoles_stay :
    (lentAgain.runFor 5).2.processor.HasRoles 11 9 ∧ lentFirst.step.2.processor.sp.toNat = 7 ∧
      (lentAgain.runFor 5).2.processor.sp = 8 ∧ (lentAgain.runFor 5).2.processor.pc = 2 ∧
      (∃ s, Session.start splitLetter { roles := { pc := 7, sp := 3 }, memorySize := 10 } = .ok s ∧
        (s.actAll meddledHistory).machine.processor.HasRoles 7 3) ∧
      (Playground.performAll {}
        [.configure 5 6, .configure 4 4, .loadImage "21", .step, .configure 16 0,
          .reset]).machine.processor.HasRoles 5 6 := by
  obtain ⟨_, hosted, _, alone, sessions, _, playgrounds⟩ := special_registers_stay 4 11 9
  refine ⟨?_, ?_, by decide +kernel, by decide +kernel, ?_, playgrounds _⟩
  · exact hosted exchangedRoles rfl _ _ _ (hosted_lentAgain.runFor 5)
  · exact (alone _ _ lentFirst).completed (.assign exchangedRoles.sp 7) (by decide +kernel)
  · obtain ⟨s, started⟩ : ∃ s, Session.start splitLetter
        { roles := { pc := 7, sp := 3 }, memorySize := 10 } = .ok s := ⟨_, rfl⟩
    exact ⟨s, started, sessions _ _ s started meddledHistory⟩

end RegisterMachine

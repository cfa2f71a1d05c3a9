import RegisterMachine.Proofs.Debugger.Lending
import RegisterMachine.Proofs.Machine.ProgramErrors

/-! # A session mirrors a bare machine

A session is compared with a bare machine: the same processor, memory and console, installed once and
for all and driven by cycles alone. Whatever the user does with the session, short of a reset, the bare
machine is in the same state after the same input and one cycle for each step of the session.

The session steps without a cycle when its machine has stopped, or was stopped by a program error. The
bare machine performs its cycle even then. That this changes nothing is part of the invariant
(`Faithful.blocked`), which has to survive new input: a program error does not depend on the devices
(`step_fatal_mapDevices`).
-/

namespace RegisterMachine

open Text.Utf8 (decodeLossy)

theorem Machine.step_fatal_mapDevices {capacity : Nat} {δ δ' : Type} [DeviceBus δ] [DeviceBus δ']
    {m m' : Machine capacity Memory δ} {error : ProgramError}
    (fatal : m.step = (.fatal error, m')) (f : δ → δ') :
    (m.mapDevices f).step = (.fatal error, m.mapDevices f) := by
  cases cycle_of_step fatal with
  | refused running fetch request =>
    obtain ⟨_, installed, cell⟩ := fetch_flat fetch
    rw [step_flat (m := m.mapDevices f) running installed cell, execute, processor_mapDevices,
      request]

/-! ## The bare machine -/

inductive Event where
  | input (bytes : List UInt8)
  | cycle
deriving DecidableEq, Repr

/-- A machine with its memory and console installed, and what each of its cycles has written. -/
structure Bare where
  machine : Workstation
  written : List (List UInt8) := []

namespace Bare

def boot (roles : Roles) (program : List Word) (c : Configuration) : Bare where
  machine :=
    { processor := (Processor.setPc { roles } c.loadAddress).setRunning true
      memory := ((Memory.zeroed c.memorySize).loadProgram c.loadAddress program).2
      devices := {} }

/-- One cycle. What it has written is what the output has behind its former end. -/
def cycle (b : Bare) : Bare where
  machine := b.machine.step.2
  written := b.written ++
    [b.machine.step.2.devices.output.toList.drop b.machine.devices.output.size]

def meet (b : Bare) : Event → Bare
  | .input bytes => { b with machine := b.machine.pushInput bytes }
  | .cycle => b.cycle

def meetAll (b : Bare) (events : List Event) : Bare :=
  events.foldl meet b

def text (b : Bare) : String :=
  String.join (b.written.map decodeLossy)

theorem cycle_of_unchanged {b : Bare} (unchanged : b.machine.step.2 = b.machine) :
    b.cycle = { b with written := b.written ++ [[]] } := by
  rw [cycle, unchanged, ← Array.length_toList, List.drop_length]

end Bare

namespace Debugger

/-! ## Operations -/

inductive Operation where
  | step
  | tick
  | run
  | toggleBreakpoint
  | scrollUp
  | scrollDown
  | pushInput (bytes : List UInt8)
deriving DecidableEq, Repr

namespace Session

variable {s s' : Session} {b : Bare}

def perform (s : Session) : Operation → Session
  | .step => s.step
  | .tick => s.tick
  | .run => s.run
  | .toggleBreakpoint => s.toggleBreakpoint
  | .scrollUp => s.scrollUp
  | .scrollDown => s.scrollDown
  | .pushInput bytes => s.pushInput bytes

def performAll (s : Session) (operations : List Operation) : Session :=
  operations.foldl perform s

/-- What an operation means to a bare machine: a cycle for each step, and the input. -/
def event? (s : Session) : Operation → Option Event
  | .step => some .cycle
  | .tick => if s.due then some .cycle else none
  | .pushInput bytes => some (.input bytes)
  | .run | .toggleBreakpoint | .scrollUp | .scrollDown => none

def events (s : Session) : List Operation → List Event
  | [] => []
  | operation :: operations => (s.event? operation).toList ++ (s.perform operation).events operations

/-! ## The invariant -/

/-- A session and a bare machine that have had the same history. -/
structure Faithful (s : Session) (b : Bare) : Prop where
  mirrors : s.Mirrors b.machine
  drained : s.machine.devices.output = #[]
  blocked : ∀ error, s.fatal = some error → b.machine.step = (.fatal error, b.machine)
  text : s.output = b.text
  kept : b.machine.devices.output.toList = b.written.flatten

namespace Faithful

/-- Mode, status, breakpoints and view do not matter. -/
theorem congr (faithful : Faithful s b) (machine : s'.machine = s.machine)
    (output : s'.output = s.output) (fatal : s'.fatal = s.fatal) : Faithful s' b where
  mirrors := by
    rw [Mirrors, machine]
    exact faithful.mirrors
  drained := by rw [machine, faithful.drained]
  blocked := by
    rw [fatal]
    exact faithful.blocked
  text := by rw [output, faithful.text]
  kept := faithful.kept

theorem cycle_of_unchanged (faithful : Faithful s b)
    (unchanged : b.machine.step.2 = b.machine) : Faithful s b.cycle := by
  rw [Bare.cycle_of_unchanged unchanged]
  refine ⟨faithful.mirrors, faithful.drained, faithful.blocked, ?_, ?_⟩
  · have silent : decodeLossy [] = "" := rfl
    simp [faithful.text, Bare.text, String.join_append, silent]
  · simp [faithful.kept]

/-- What the bare machine writes in a cycle is what the session finds on its console afterwards. -/
theorem output_step (faithful : Faithful s b) :
    b.machine.step.2.devices.output =
      b.machine.devices.output ++ s.machine.install.step.2.devices.output := by
  obtain ⟨earlier, same⟩ := faithful.mirrors
  have before : b.machine.devices.output = earlier := by
    rw [same]
    show earlier ++ s.machine.devices.output = earlier
    rw [faithful.drained, Array.append_empty]
  have stepped := Machine.step_mapDevices (deviceMap_behind earlier) s.machine.install
  rw [before, same, stepped]
  rfl

theorem written_cycle (faithful : Faithful s b) :
    b.cycle.written = b.written ++ [s.machine.install.step.2.devices.output.toList] := by
  rw [Bare.cycle, faithful.output_step, Array.toList_append, ← Array.length_toList,
    List.drop_left]

theorem cycle (faithful : Faithful s b) (unblocked : s.fatal = none) :
    Faithful s.cycle b.cycle where
  mirrors := mirrors_cycle faithful.mirrors
  drained := by
    rw [machine_cycle]
    rfl
  blocked := by
    intro error fatal
    rw [fatal_cycle, unblocked, Option.or_none, ← faithful.mirrors.outcome] at fatal
    rcases stepped : b.machine.step with ⟨outcome, m⟩
    rw [stepped] at fatal
    obtain rfl := Outcome.error?_eq_some_iff.1 fatal
    obtain rfl := Machine.step_fatal_unchanged stepped
    simp only [Bare.cycle, stepped]
  text := by
    rw [output_cycle, faithful.text, Bare.text, Bare.text, faithful.written_cycle]
    simp [String.join_append]
  kept := by
    rw [faithful.written_cycle, Bare.cycle, faithful.output_step]
    simp [faithful.kept]

/-! ## One operation -/

theorem step (faithful : Faithful s b) : Faithful s.step b.cycle := by
  unfold Session.step
  split
  · rename_i error blocked
    have unchanged := congrArg Prod.snd (faithful.blocked error blocked)
    exact (faithful.cycle_of_unchanged unchanged).congr rfl rfl rfl
  · rename_i unblocked
    split
    · exact faithful.cycle unblocked
    · rename_i stopped
      have idle : b.machine.step = (.idle, b.machine) :=
        Machine.step_of_stopped (faithful.mirrors.running.trans (Bool.eq_false_iff.2 stopped))
      exact (faithful.cycle_of_unchanged (congrArg Prod.snd idle)).congr rfl rfl rfl

theorem pushInput (faithful : Faithful s b) (bytes : List UInt8) :
    Faithful (s.pushInput bytes) (b.meet (.input bytes)) where
  mirrors := by
    obtain ⟨earlier, same⟩ := faithful.mirrors
    exact ⟨earlier, congrArg (Workstation.pushInput · bytes) same⟩
  drained := faithful.drained
  blocked error fatal :=
    Machine.step_fatal_mapDevices (faithful.blocked error fatal) (Console.pushInput · bytes)
  text := faithful.text
  kept := faithful.kept

theorem toggleBreakpoint (faithful : Faithful s b) : Faithful s.toggleBreakpoint b := by
  unfold Session.toggleBreakpoint
  dsimp only
  split <;> exact faithful.congr rfl rfl rfl

theorem scrollDown (faithful : Faithful s b) : Faithful s.scrollDown b := by
  unfold Session.scrollDown
  split
  · exact faithful.congr rfl rfl rfl
  · exact faithful

theorem perform (faithful : Faithful s b) (operation : Operation) :
    Faithful (s.perform operation) (b.meetAll (s.event? operation).toList) := by
  cases operation with
  | step => exact faithful.step
  | tick =>
    cases due : s.due with
    | true =>
      simp only [Session.perform, tick_of_due due, event?, due, if_true]
      exact faithful.step
    | false =>
      obtain ⟨status, late⟩ := tick_of_not_due due
      simp only [Session.perform, late, event?, due]
      exact faithful.congr rfl rfl rfl
  | run => exact faithful.congr rfl rfl rfl
  | toggleBreakpoint => exact faithful.toggleBreakpoint
  | scrollUp => exact faithful.congr rfl rfl rfl
  | scrollDown => exact faithful.scrollDown
  | pushInput bytes => exact faithful.pushInput bytes

/-! ## A whole history -/

theorem performAll (faithful : Faithful s b) (operations : List Operation) :
    Faithful (s.performAll operations) (b.meetAll (s.events operations)) := by
  induction operations generalizing s b with
  | nil => exact faithful
  | cons operation operations inductionHypothesis =>
    have first := faithful.perform operation
    rw [Session.performAll, List.foldl_cons, events, Bare.meetAll, List.foldl_append]
    exact inductionHypothesis first

end Faithful

theorem faithful_start {program : List Word} {c : Configuration}
    (started : Session.start program c = .ok s) :
    ∃ roles, c.roles.check = .ok roles ∧
      ((Memory.zeroed c.memorySize).loadProgram c.loadAddress program).1 = .ok () ∧
      Faithful s (.boot roles program c) := by
  obtain ⟨roles, checked, fits, rfl⟩ := eq_of_start started
  have cleared : (Memory.zeroed c.memorySize).clear = Memory.zeroed c.memorySize :=
    Memory.clear_eq (Memory.size_zeroed c.memorySize)
  refine ⟨roles, checked, ?_, ⟨⟨#[], ?_⟩, rfl, ?_, rfl, rfl⟩⟩
  · rw [Memory.loadProgram, if_pos fits]
  · rw [Bare.boot, ← cleared]
    rfl
  · intro error blocked
    cases blocked

/-- Under every sequence of operations a session shows the state of the bare machine behind the same
input and one cycle for each step, and its text is that of what these cycles wrote, decoded one by one.
The bare machine keeps its memory and console installed and all its output. -/
theorem session_mirrors_bare {program : List Word} {c : Configuration}
    (started : Session.start program c = .ok s) :
    ∃ roles, c.roles.check = .ok roles ∧
      ((Memory.zeroed c.memorySize).loadProgram c.loadAddress program).1 = .ok () ∧
      ∀ operations : List Operation,
        let b := (Bare.boot roles program c).meetAll (s.events operations)
        (s.performAll operations).Shows b.machine ∧
          (s.performAll operations).output = String.join (b.written.map decodeLossy) ∧
          b.machine.devices.output.toList = b.written.flatten ∧
          b.machine.memoryInstalled = true ∧ b.machine.devicesInstalled = true := by
  obtain ⟨roles, checked, loaded, faithful⟩ := faithful_start started
  refine ⟨roles, checked, loaded, fun operations => ?_⟩
  have after := faithful.performAll operations
  obtain ⟨earlier, same⟩ := after.mirrors
  refine ⟨after.mirrors.shows, after.text, after.kept, ?_, ?_⟩
  · rw [same]
    rfl
  · rw [same]
    rfl

/-- Writes the two bytes of one letter in two steps, and divides by zero. -/
def splitLetter : List Word :=
  [encode .movi 3 1 0, encode .movi 4 6 0, encode .syscall 0 0 0, encode .movi 4 8 0,
   encode .syscall 0 0 0, encode .divi 0 0 0, 0xc3, 0, 0xa9, 0]

/-- A run up to a breakpoint, steps into the program error, and one more step behind new input. -/
def interruptedHistory : List Operation :=
  [.run, .tick, .tick, .tick, .toggleBreakpoint, .scrollDown, .tick, .step, .step, .step,
   .pushInput [7], .step]

/-- Neither byte is a letter by itself, and the tick at the breakpoint is not a step. -/
theorem splitLetter_mirrored :
    ∃ s roles, Session.start splitLetter { memorySize := 10 } = .ok s ∧
      s.events interruptedHistory =
        [.cycle, .cycle, .cycle, .cycle, .cycle, .cycle, .input [7], .cycle] ∧
      (s.performAll interruptedHistory).output = "\ufffd\ufffd" ∧
      let b := (Bare.boot roles splitLetter { memorySize := 10 }).meetAll
        (s.events interruptedHistory)
      (s.performAll interruptedHistory).Shows b.machine ∧
        String.join (b.written.map decodeLossy) = "\ufffd\ufffd" := by
  obtain ⟨s, started, events, output⟩ :
      ∃ s, Session.start splitLetter { memorySize := 10 } = .ok s ∧
        s.events interruptedHistory =
          [.cycle, .cycle, .cycle, .cycle, .cycle, .cycle, .input [7], .cycle] ∧
        (s.performAll interruptedHistory).output = "\ufffd\ufffd" :=
    ⟨_, rfl, by decide +kernel, by decide +kernel⟩
  obtain ⟨roles, _, _, history⟩ := session_mirrors_bare started
  obtain ⟨shows, text, _⟩ := history interruptedHistory
  exact ⟨s, roles, started, events, output, shows, text.symm.trans output⟩

end Session

end Debugger

end RegisterMachine

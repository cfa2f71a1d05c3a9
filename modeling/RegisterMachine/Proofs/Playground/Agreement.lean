import RegisterMachine.Proofs.Debugger.Mirror
import RegisterMachine.Proofs.Playground.Calls

/-! # The playground and the debugger agree

A playground and a debugging session that begin with the same program stay in the same state, move by
move, and the texts taken from the playground since the last reset make up the session's output.

The two differ behind a program error: the session does not step again until it is reset, the playground
performs the failing cycle anew. A program error leaves no trace, so this shows nowhere; that the next
cycle would fail again is part of what connects the two (`InStep.blocked`).
-/

namespace RegisterMachine

open Debugger (Session)
open Text.Utf8 (decodeLossy)

theorem Workstation.mapDevices_drained {w : Workstation} (drained : w.devices.output = #[]) :
    w.mapDevices Console.drained = w := by
  obtain ⟨processor, memory, ⟨input, output, atEnd⟩, _, _⟩ := w
  cases drained
  rfl

/-! ## Many cycles of a playground -/

/-- A budgeted sequence of cycles over flat memory can be cut behind its first cycle, however that one
ended. -/
theorem Machine.cyclesFor_succ_flat {capacity : Nat} {δ : Type} [DeviceBus δ] (budget : Nat)
    (m : Machine capacity Memory δ) :
    (cyclesFor (budget + 1) m).2 = (cyclesFor budget m.step.2).2 := by
  cases running : m.running with
  | false => rw [step_of_stopped running, cyclesFor_of_stopped running, cyclesFor_of_stopped running]
  | true =>
    rcases stepped : m.step with ⟨outcome, m'⟩
    rw [cyclesFor_succ running stepped]
    cases refused : outcome.error? with
    | none => rfl
    | some error =>
      obtain rfl := Outcome.error?_eq_some_iff.1 refused
      obtain rfl := step_fatal_unchanged stepped
      -- The same program error again, if there is another cycle.
      cases budget with
      | zero => rfl
      | succ budget => rw [cyclesFor_succ running stepped, refused]

namespace Playground

theorem Sound.run_eq_steps {p : Playground} (sound : p.Sound) (budget : Nat) :
    (p.run budget).2 = p.performAll (.replicate budget .step) := by
  induction budget generalizing p with
  | zero =>
    rw [snd_run]
    exact congrArg (Playground.mk · p.program) sound.made.detach_eq
  | succ budget inductionHypothesis =>
    have later := inductionHypothesis (sound.perform .step)
    have first : (p.run (budget + 1)).2 = ((p.perform .step).run budget).2 := by
      rw [snd_run, snd_run, Machine.cyclesFor_succ_flat, Playground.perform, step_eq,
        Machine.install_detach_step]
    rw [List.replicate_succ]
    exact first.trans later

theorem takeOutput_eq (p : Playground) :
    p.takeOutput =
      (decodeLossy p.machine.devices.output.toList,
        ⟨p.machine.mapDevices Console.drained, p.program⟩) := rfl

end Playground

/-! ## Moves -/

inductive Move where
  | step
  | reset
  | pushInput (text : String)
deriving DecidableEq, Repr

structure Played where
  playground : Playground
  taken : String := ""

/-- The output is taken behind every step. -/
def Played.move (played : Played) : Move → Played
  | .step =>
    match played.playground.step.2.takeOutput with
    | (text, playground) => { playground, taken := played.taken ++ text }
  | .reset => { playground := played.playground.reset }
  | .pushInput text => { played with playground := played.playground.pushInput text }

def Played.moveAll (played : Played) (moves : List Move) : Played :=
  moves.foldl move played

def Debugger.Session.move (s : Session) : Move → Session
  | .step => s.step
  | .reset => s.reset
  | .pushInput text => s.pushInput (Text.Utf8.encode text)

def Debugger.Session.moveAll (s : Session) (moves : List Move) : Session :=
  moves.foldl move s

/-! ## The simulation -/

/-- A playground and a session at the same point of the same program. -/
structure InStep (played : Played) (s : Session) : Prop where
  machine : played.playground.machine = s.machine
  program : played.playground.program = s.program
  taken : played.taken = s.output
  sound : played.playground.Sound
  nonempty : s.program ≠ []
  bottom : s.loadAddress = 0
  drained : s.machine.devices.output = #[]
  blocked : ∀ error, s.fatal = some error →
    s.machine.install.step = (.fatal error, s.machine.install)

namespace InStep

variable {played : Played} {s s' : Session}

/-- Mode, status, breakpoints and view do not matter. -/
theorem congr (inStep : InStep played s) (machine : s'.machine = s.machine)
    (program : s'.program = s.program) (address : s'.loadAddress = s.loadAddress)
    (output : s'.output = s.output) (fatal : s'.fatal = s.fatal) : InStep played s' where
  machine := inStep.machine.trans machine.symm
  program := inStep.program.trans program.symm
  taken := inStep.taken.trans output.symm
  sound := inStep.sound
  nonempty := program ▸ inStep.nonempty
  bottom := address.trans inStep.bottom
  drained := by rw [machine, inStep.drained]
  blocked := by
    rw [fatal, machine]
    exact inStep.blocked

/-- A step that does nothing to the machine does nothing to the playground, either. -/
theorem move_of_unchanged (inStep : InStep played s)
    (unchanged : s.machine.install.step.2 = s.machine.install) : played.move .step = played := by
  have returned : s.machine.install.detach = s.machine := by
    rw [← inStep.machine]
    exact inStep.sound.made.detach_eq
  have drained := Workstation.mapDevices_drained inStep.drained
  obtain ⟨⟨machine, program⟩, taken⟩ := played
  obtain rfl : machine = s.machine := inStep.machine
  have silent : taken ++ decodeLossy [] = taken := String.append_empty
  simp only [Played.move, Playground.step_eq, Playground.takeOutput_eq, unchanged, returned, drained,
    inStep.drained, silent]

theorem cycle (inStep : InStep played s) (unblocked : s.fatal = none) :
    InStep (played.move .step) s.cycle where
  machine := by
    rw [Session.machine_cycle, ← inStep.machine]
    rfl
  program := inStep.program.trans (Session.program_cycle s).1.symm
  taken := by
    rw [Session.output_cycle, ← inStep.machine, ← inStep.taken]
    rfl
  sound := (inStep.sound.perform .step).perform .takeOutput
  nonempty := by
    rw [(Session.program_cycle s).1]
    exact inStep.nonempty
  bottom := (Session.program_cycle s).2.trans inStep.bottom
  drained := by
    rw [Session.machine_cycle]
    rfl
  blocked := by
    intro error fatal
    rw [Session.fatal_cycle, unblocked, Option.or_none] at fatal
    rcases stepped : s.machine.install.step with ⟨outcome, m⟩
    rw [stepped] at fatal
    obtain rfl := Outcome.error?_eq_some_iff.1 fatal
    obtain rfl := Machine.step_fatal_unchanged stepped
    rw [Session.machine_cycle, stepped]
    exact Machine.step_fatal_mapDevices stepped Console.drained

theorem step (inStep : InStep played s) : InStep (played.move .step) s.step := by
  unfold Session.step
  split
  · rename_i error blocked
    rw [inStep.move_of_unchanged (congrArg Prod.snd (inStep.blocked error blocked))]
    exact inStep.congr rfl rfl rfl rfl rfl
  · rename_i unblocked
    split
    · exact inStep.cycle unblocked
    · rename_i stopped
      have idle : s.machine.install.step = (.idle, s.machine.install) :=
        Machine.step_of_stopped (Bool.eq_false_iff.2 stopped)
      rw [inStep.move_of_unchanged (congrArg Prod.snd idle)]
      exact inStep.congr rfl rfl rfl rfl rfl

theorem reset (inStep : InStep played s) : InStep (played.move .reset) s.reset where
  machine := by
    have occupied : (!s.program.isEmpty) = true := by
      simpa using inStep.nonempty
    show played.playground.machine.restart played.playground.program 0
      (!played.playground.program.isEmpty) = s.machine.restart s.program s.loadAddress true
    rw [inStep.machine, inStep.program, inStep.bottom, occupied]
  program := inStep.program
  taken := rfl
  sound := inStep.sound.perform .reset
  nonempty := inStep.nonempty
  bottom := inStep.bottom
  drained := rfl
  blocked := by
    intro error blocked
    cases blocked

theorem pushInput (inStep : InStep played s) (text : String) :
    InStep (played.move (.pushInput text)) (s.move (.pushInput text)) where
  machine := congrArg (Workstation.pushInput · (Text.Utf8.encode text)) inStep.machine
  program := inStep.program
  taken := inStep.taken
  sound := inStep.sound.perform (.pushInput text)
  nonempty := inStep.nonempty
  bottom := inStep.bottom
  drained := inStep.drained
  blocked error fatal :=
    Machine.step_fatal_mapDevices (inStep.blocked error fatal)
      (Console.pushInput · (Text.Utf8.encode text))

theorem move (inStep : InStep played s) (move : Move) : InStep (played.move move) (s.move move) := by
  cases move with
  | step => exact inStep.step
  | reset => exact inStep.reset
  | pushInput text => exact inStep.pushInput text

theorem moveAll (inStep : InStep played s) (moves : List Move) :
    InStep (played.moveAll moves) (s.moveAll moves) := by
  induction moves generalizing played s with
  | nil => exact inStep
  | cons first moves inductionHypothesis => exact inductionHypothesis (inStep.move first)

end InStep

/-! ## Agreement -/

/-- The playground shows the state of the session: the whole processor, every cell and the unread input,
and the texts taken from it are the session's output. -/
structure Agree (played : Played) (s : Session) : Prop where
  processor : played.playground.machine.processor = s.machine.processor
  memory : played.playground.machine.memory = s.machine.memory
  input : played.playground.machine.devices.input = s.machine.devices.input
  output : played.taken = s.output

/-- A playground, whatever was done with it before, that is configured and loaded with a program, and a
session of the same program at the bottom of as much memory, agree behind all moves. A run of the
playground is as many steps. -/
theorem front_ends_agree (earlier : List Playground.Call) {text : String} {image : Image}
    {proposed : ProposedRoles} {roles : Roles} (parsed : Image.parse text = .ok image)
    (nonempty : image.words ≠ []) (fits : image.size ≤ 4096) (valid : proposed.check = .ok roles)
    (limit : Option Word) :
    ∃ configured p s,
      (Playground.performAll {} earlier).configure proposed.pc.toNat proposed.sp.toNat =
        (.ok (), configured) ∧
      configured.loadImage text = (.ok image.size, p) ∧
      Session.start image.words
        { roles := proposed, memorySize := 4096, loadAddress := 0, maxCycles := limit } = .ok s ∧
      ∀ moves : List Move,
        Agree (Played.moveAll { playground := p } moves) (s.moveAll moves) ∧
        ∀ budget, ((Played.moveAll { playground := p } moves).playground.run budget).2 =
          (Played.moveAll { playground := p } moves).playground.performAll
            (.replicate budget .step) := by
  have before := Playground.sound_new.performAll earlier
  have middle := Playground.sound_atStart roles before.fits
  have words : image.words.length ≤ 4096 := image.length_words ▸ fits
  have configured := before.configure_eq proposed.pc.toNat proposed.sp.toNat
  have accepted : Roles.ofIndices proposed.pc.toNat proposed.sp.toNat = .ok roles := valid
  rw [accepted] at configured
  have loaded := middle.loadImage_eq text
  rw [parsed] at loaded
  simp only [if_pos fits] at loaded
  have room : image.words.length ≤ (Memory.zeroed 4096).available 0 := by
    have sized : (Memory.zeroed 4096).cells.size = 4096 := Memory.size_zeroed 4096
    rw [Memory.available, sized]
    exact words
  have started := Session.start_of_fits
    (c := { roles := proposed, memorySize := 4096, loadAddress := 0, maxCycles := limit }) valid room
  refine ⟨_, _, _, configured, loaded, started, fun moves => ?_⟩
  have occupied : (!image.words.isEmpty) = true := by simpa using nonempty
  have begun : InStep { playground := .atStart roles image.words }
      { machine := .prepared roles 4096 image.words 0 true, program := image.words,
        loadAddress := 0 } := by
    refine ⟨?_, rfl, rfl, Playground.sound_atStart roles words, nonempty, rfl, rfl, ?_⟩
    · rw [Playground.atStart, occupied]
      rfl
    · intro error blocked
      cases blocked
  have inStep := begun.moveAll moves
  refine ⟨⟨?_, ?_, ?_, inStep.taken⟩, inStep.sound.run_eq_steps⟩
  · exact congrArg Machine.processor inStep.machine
  · exact congrArg Machine.memory inStep.machine
  · exact congrArg (·.devices.input) inStep.machine

/-- Writes a letter, and then meets a word without an operation. -/
def greetingText : String := "0x1_0003_000a ; movi\n0x4_0004_000a\n20\n21\n0x48\n"

def greetingImage : Image where
  entries := [⟨0x10003000a, "0x1_0003_000a ; movi"⟩, ⟨0x40004000a, "0x4_0004_000a"⟩, ⟨20, "20"⟩,
    ⟨21, "21"⟩, ⟨0x48, "0x48"⟩]

/-- Into the program error and beyond, back to the start, and up to the letter again. -/
def greetingMoves : List Move :=
  [.step, .step, .step, .step, .pushInput "é", .step, .reset, .step, .step, .step]

/-- The playground has written the letter, as the session has, which was blocked before the reset. -/
theorem greeting_agrees :
    ∃ p s, Session.start greetingImage.words { roles := { pc := 7, sp := 2 }, memorySize := 4096 } =
        .ok s ∧
      (s.moveAll (greetingMoves.take 6)).fatal = some (.unknownOpcode 21 3) ∧
      Agree (Played.moveAll { playground := p } greetingMoves) (s.moveAll greetingMoves) ∧
      (Played.moveAll { playground := p } greetingMoves).taken = "H" ∧
      (p.run 3).2 = p.performAll [.step, .step, .step] := by
  have parsed : Image.parse greetingText = .ok greetingImage := by rfl
  have valid : ProposedRoles.check { pc := 7, sp := 2 } = .ok ⟨7, 2, by decide⟩ := rfl
  obtain ⟨_, p, s, _, _, started, agree⟩ :=
    front_ends_agree [.step, .run 5] parsed (by decide) (by decide) valid none
  have room : greetingImage.words.length ≤ (Memory.zeroed 4096).available 0 := by decide +kernel
  have begun := Session.start_of_fits
    (c := { roles := { pc := 7, sp := 2 }, memorySize := 4096 }) valid room
  obtain rfl := Except.ok.inj (started.symm.trans begun)
  have together := (agree greetingMoves).1
  refine ⟨p, _, started, ?_, together, together.output.trans ?_, (agree []).2 3⟩
  · decide +kernel
  · decide +kernel

end RegisterMachine

import RegisterMachine.Playground
import RegisterMachine.Proofs.Machine.Budget
import RegisterMachine.Proofs.Machine.Restart
import RegisterMachine.Proofs.Processor.Roles

/-! # The calls of a playground

Whatever calls a playground answers, it keeps its amount of memory, and the program that it stores fits
in it (`Sound`). So the program that a reset loads is never refused: a reset, and every call that ends
with one, leaves the beginning of the stored program (`Beginning`), which depends on the program and the
special registers only. A call that fails leaves the playground as it was.
-/

namespace RegisterMachine

theorem Image.length_words (image : Image) : image.words.length = image.size :=
  List.length_map _

namespace Playground

inductive Call where
  | configure (pc sp : Nat)
  | loadImage (text : String)
  | step
  | run (budget : Nat)
  | reset
  | pushInput (text : String)
  | takeOutput
deriving DecidableEq, Repr

variable {p q : Playground}

def perform (p : Playground) : Call → Playground
  | .configure pc sp => (p.configure pc sp).2
  | .loadImage text => (p.loadImage text).2
  | .step => p.step.2
  | .run budget => (p.run budget).2
  | .reset => p.reset
  | .pushInput text => p.pushInput text
  | .takeOutput => p.takeOutput.2

def performAll (p : Playground) (calls : List Call) : Playground :=
  calls.foldl perform p

def roles (p : Playground) : Roles :=
  p.machine.processor.roles

theorem step_eq (p : Playground) :
    p.step = (answer p.machine.install.step.1, ⟨p.machine.install.step.2.detach, p.program⟩) := rfl

theorem snd_run (p : Playground) (budget : Nat) :
    (p.run budget).2 = ⟨(Machine.cyclesFor budget p.machine.install).2.detach, p.program⟩ := by
  obtain ⟨machine, program⟩ := p
  simp only [run, Machine.lend_eq, Machine.runFor_eq]
  split
  · rename_i answered
    rw [← (Prod.mk.inj answered).2]
  · rename_i answered
    rw [← (Prod.mk.inj answered).2]

/-! ## Calls that fail -/

theorem eq_of_configure_error {pc sp : Nat} {e : PlaygroundError}
    (failed : p.configure pc sp = (.error e, q)) : q = p := by
  unfold configure at failed
  split at failed
  · exact (Prod.mk.inj failed).2.symm
  · cases (Prod.mk.inj failed).1

theorem eq_of_loadImage_error {text : String} {e : PlaygroundError}
    (failed : p.loadImage text = (.error e, q)) : q = p := by
  unfold loadImage at failed
  split at failed
  · exact (Prod.mk.inj failed).2.symm
  · split at failed
    · cases (Prod.mk.inj failed).1
    · exact (Prod.mk.inj failed).2.symm

/-! ## The beginning of a program -/

/-- A playground at the beginning of a program. Without a program its machine does not run. -/
def atStart (roles : Roles) (program : List Word) : Playground where
  machine := .prepared roles memorySize program 0 (!program.isEmpty)
  program

/-- What a playground is like at the beginning of a program, as a whole and part by part. -/
structure Beginning (roles : Roles) (program : List Word) (p : Playground) : Prop where
  determined : p = atStart roles program
  stored : p.program = program
  cells : p.machine.memory.toList = program ++ List.replicate (4096 - program.length) 0
  chosen : p.roles = roles
  registers : ∀ i, p.machine.processor.registers.get i = 0
  flags : p.machine.processor.registers.flags = if program = [] then .empty else ⟨Flags.running⟩
  stack : p.machine.processor.stack = .empty
  fault : p.machine.processor.fault = none
  cycles : p.machine.processor.cycles = 0
  devices : p.machine.devices = {}
  pc : p.machine.processor.pc = 0
  running : p.machine.running = true ↔ program ≠ []

theorem beginning_atStart (roles : Roles) {program : List Word} (fits : program.length ≤ 4096) :
    Beginning roles program (atStart roles program) := by
  have zeros : ∀ i, (Registers.cleared.set roles.pc 0).get i = 0 := by
    intro i
    rw [Registers.get_set]
    split
    · rfl
    · exact Vector.getElem_replicate _
  have registers : ∀ i, (atStart roles program).machine.processor.registers.get i = 0 := zeros
  have room : (0 : Word).toNat + program.length ≤ memorySize.toNat := by
    rw [UInt64.toNat_zero, Nat.zero_add]
    exact fits
  have cells : (atStart roles program).machine.memory.toList =
      program ++ List.replicate (4096 - program.length) 0 := by
    obtain ⟨_, loaded⟩ := Memory.toList_loadProgram_zeroed room
    rw [← Memory.clear_eq (Memory.size_zeroed memorySize)] at loaded
    rw [UInt64.toNat_zero, List.replicate_zero, List.nil_append, Nat.zero_add] at loaded
    exact loaded
  have flags : (atStart roles program).machine.processor.registers.flags =
      if program = [] then .empty else ⟨Flags.running⟩ := by
    cases program with
    | nil => exact (by decide : Flags.empty.assign Flags.running false = .empty)
    | cons _ _ => exact (by decide : Flags.empty.assign Flags.running true = ⟨Flags.running⟩)
  have running : (atStart roles program).machine.running = true ↔ program ≠ [] := by
    show Flags.contains (atStart roles program).machine.processor.registers.flags _ = true ↔ _
    rw [flags]
    cases program with
    | nil => decide
    | cons word words => simp [Flags.contains]
  exact ⟨rfl, rfl, cells, rfl, registers, flags, rfl, rfl, rfl, rfl, registers roles.pc, running⟩

/-! ## The invariant -/

structure Sound (p : Playground) : Prop where
  made : p.machine.OfMake p.roles memorySize
  fits : p.program.length ≤ 4096

theorem sound_atStart (roles : Roles) {program : List Word} (fits : program.length ≤ 4096) :
    (atStart roles program).Sound where
  made := (Workstation.ofMake_make roles memorySize).restart program 0 _
  fits := fits

namespace Sound

theorem reset_eq (sound : p.Sound) : p.reset = atStart p.roles p.program := by
  rw [reset, sound.made.restart_eq]
  rfl

theorem configure_eq (sound : p.Sound) (pc sp : Nat) :
    p.configure pc sp =
      match Roles.ofIndices pc sp with
      | .error e => (.error (.roles e), p)
      | .ok roles => (.ok (), atStart roles p.program) := by
  unfold configure
  cases Roles.ofIndices pc sp with
  | error e => rfl
  | ok roles =>
    obtain ⟨_, size, atEnd, unreachable, disconnected⟩ := sound.made
    have made : Workstation.OfMake roles memorySize
        { p.machine with processor := { roles } } := ⟨rfl, size, atEnd, unreachable, disconnected⟩
    simp only [reset, made.restart_eq]
    rfl

theorem loadImage_eq (sound : p.Sound) (text : String) :
    p.loadImage text =
      match Image.parse text with
      | .error e => (.error (.image e), p)
      | .ok image =>
        if image.size ≤ 4096 then (.ok image.size, atStart p.roles image.words)
        else (.error (.tooLarge image.size 4096), p) := by
  have size : p.machine.memory.size = 4096 := sound.made.size
  unfold loadImage
  cases Image.parse text with
  | error e => rfl
  | ok image =>
    simp only [size, reset, sound.made.restart_eq]
    rfl

/-! ### Calls that end with a reset -/

theorem beginning_reset (sound : p.Sound) : Beginning p.roles p.program p.reset := by
  rw [sound.reset_eq]
  exact beginning_atStart p.roles sound.fits

theorem beginning_configure (sound : p.Sound) {pc sp : Nat}
    (configured : p.configure pc sp = (.ok (), q)) :
    ∃ roles, Roles.ofIndices pc sp = .ok roles ∧ Beginning roles p.program q := by
  rw [sound.configure_eq] at configured
  split at configured
  · cases (Prod.mk.inj configured).1
  · rename_i roles valid
    obtain ⟨_, rfl⟩ := Prod.mk.inj configured
    exact ⟨roles, valid, beginning_atStart roles sound.fits⟩

theorem beginning_loadImage (sound : p.Sound) {text : String} {count : Nat}
    (loaded : p.loadImage text = (.ok count, q)) :
    ∃ image, Image.parse text = .ok image ∧ count = image.size ∧
      Beginning p.roles image.words q := by
  rw [sound.loadImage_eq] at loaded
  split at loaded
  · cases (Prod.mk.inj loaded).1
  · rename_i image parsed
    split at loaded
    · rename_i fits
      obtain ⟨counted, rfl⟩ := Prod.mk.inj loaded
      cases counted
      exact ⟨image, parsed, rfl, beginning_atStart p.roles (image.length_words ▸ fits)⟩
    · cases (Prod.mk.inj loaded).1

/-! ### Any call -/

theorem perform (sound : p.Sound) (call : Call) : (p.perform call).Sound := by
  cases call with
  | configure pc sp =>
    rw [Playground.perform, sound.configure_eq]
    cases Roles.ofIndices pc sp with
    | error e => exact sound
    | ok roles => exact sound_atStart roles sound.fits
  | loadImage text =>
    rw [Playground.perform, sound.loadImage_eq]
    cases Image.parse text with
    | error e => exact sound
    | ok image =>
      dsimp only
      split
      · rename_i fits
        exact sound_atStart p.roles (image.length_words ▸ fits)
      · exact sound
  | step => exact ⟨sound.made.lend_step.own, sound.fits⟩
  | run budget =>
    rw [Playground.perform, snd_run]
    exact ⟨(sound.made.lend_runFor budget).own, sound.fits⟩
  | reset =>
    rw [Playground.perform, sound.reset_eq]
    exact sound_atStart p.roles sound.fits
  | pushInput _ | takeOutput => exact ⟨sound.made.same ⟨rfl, rfl, rfl⟩ rfl rfl, sound.fits⟩

theorem performAll (sound : p.Sound) (calls : List Call) : (p.performAll calls).Sound := by
  induction calls generalizing p with
  | nil => exact sound
  | cons call calls inductionHypothesis => exact inductionHypothesis (sound.perform call)

end Sound

theorem sound_new : Sound {} where
  made := Workstation.ofMake_make .standard memorySize
  fits := Nat.zero_le _

/-! ## What every call keeps -/

/-- Behind any calls, memory has its size, the program fits in it and the special registers are valid. A
call that fails to configure or to load changes nothing. One that succeeds leaves the beginning of a
program, and so does a reset. -/
theorem calls_keep (calls : List Call) :
    let p := performAll {} calls
    p.machine.memory.size = 4096 ∧ p.program.length ≤ 4096 ∧
      Roles.ofIndices p.roles.pc.val p.roles.sp.val = .ok p.roles ∧
      (∀ pc sp e q, p.configure pc sp = (.error e, q) → q = p) ∧
      (∀ text e q, p.loadImage text = (.error e, q) → q = p) ∧
      (∀ pc sp q, p.configure pc sp = (.ok (), q) →
        ∃ roles, Roles.ofIndices pc sp = .ok roles ∧ Beginning roles p.program q) ∧
      (∀ text count q, p.loadImage text = (.ok count, q) →
        ∃ image, Image.parse text = .ok image ∧ count = image.size ∧
          Beginning p.roles image.words q) ∧
      Beginning p.roles p.program p.reset := by
  intro p
  have sound : p.Sound := sound_new.performAll calls
  exact ⟨sound.made.size, sound.fits, p.roles.ofIndices_val,
    fun _ _ _ _ failed => eq_of_configure_error failed, fun _ _ _ failed => eq_of_loadImage_error failed,
    fun _ _ _ configured => sound.beginning_configure configured,
    fun _ _ _ loaded => sound.beginning_loadImage loaded, sound.beginning_reset⟩

/-- Behind a step of a loaded program one pair of registers is refused and another accepted, and a line of
two words is not read. -/
theorem loadedPlayground_keeps :
    let p := performAll {} [.loadImage "20 ; syscall\n21\n", .step]
    (p.configure 4 4).2 = p ∧ (p.loadImage "20 21").2 = p ∧
      Beginning ⟨5, 6, by decide⟩ [20, 21] (p.configure 5 6).2 := by
  have shared : ∀ p : Playground,
      p.configure 4 4 = (.error (.roles (.shared 4)), (p.configure 4 4).2) := fun _ => rfl
  have unread : ∀ p : Playground, p.loadImage "20 21" =
      (.error (.image (.line 1 (.severalWords "20 21"))), (p.loadImage "20 21").2) := fun _ => rfl
  have valid : ∀ p : Playground, p.configure 5 6 = (.ok (), (p.configure 5 6).2) := fun _ => rfl
  intro p
  obtain ⟨_, _, _, configureFailed, loadFailed, configured, _⟩ :=
    calls_keep [.loadImage "20 ; syscall\n21\n", .step]
  refine ⟨configureFailed _ _ _ _ (shared p), loadFailed _ _ _ (unread p), ?_⟩
  have stored : p.program = [20, 21] := by decide +kernel
  obtain ⟨roles, chosen, beginning⟩ := configured _ _ _ (valid p)
  cases chosen
  rw [← stored]
  exact beginning

end Playground

end RegisterMachine

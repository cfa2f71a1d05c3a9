import RegisterMachine.Proofs.Debugger.Reset
import RegisterMachine.Proofs.Text.Chunks

/-! # The text of a session

A session decodes what its program writes step by step. If all that the program has written since the start
or the last reset is the text of some bytes, the session shows that text exactly if no step has ended within
a character (`output_eq_text_iff`). A letter whose bytes are written in two steps is lost (`splitLetter_lost`).
-/

namespace RegisterMachine.Debugger.Session

variable {s begun : Session} {program : List Word} {c : Configuration}

/-- The session has just been started, or reset after whatever has happened to it. -/
inductive Begins (s : Session) : Session → Prop where
  | started : Begins s s
  | reset (history : List Action) : Begins s (s.actAll history).reset

/-- A reset session is as faithful to a newly booted machine as a new one. -/
theorem faithful_begins (started : Session.start program c = .ok s) :
    ∃ roles, c.roles.check = .ok roles ∧
      ∀ begun, Begins s begun → Faithful begun (.boot roles program c) := by
  obtain ⟨roles, checked, _, faithful⟩ := faithful_start started
  refine ⟨roles, checked, fun begun begins => ?_⟩
  cases begins with
  | started => exact faithful
  | reset history =>
    obtain ⟨roles', checked', _, rfl⟩ := eq_of_start started
    obtain rfl : roles' = roles := Except.ok.inj (checked'.symm.trans checked)
    rw [((StartedWith.prepared program c roles').actAll history).reset_eq]
    exact faithful.congr rfl rfl rfl

/-- If everything that the program has written since the start or the last reset is the encoding of a
text, that text is shown exactly if what each step has written is the encoding of a text. -/
theorem output_eq_text_iff (started : Session.start program c = .ok s) :
    ∃ roles, c.roles.check = .ok roles ∧
      ∀ begun, Begins s begun → ∀ operations : List Operation,
        let b := (Bare.boot roles program c).meetAll (begun.events operations)
        (begun.performAll operations).Shows b.machine ∧
          b.machine.devices.output.toList = b.written.flatten ∧
          ∀ text : String, b.machine.devices.output.toList = Text.Utf8.encode text →
            ((begun.performAll operations).output = text ↔
              ∀ bytes ∈ b.written, ∃ part : String, bytes = Text.Utf8.encode part) := by
  obtain ⟨roles, checked, faithful⟩ := faithful_begins started
  refine ⟨roles, checked, fun begun begins operations => ?_⟩
  have after := (faithful begun begins).performAll operations
  refine ⟨after.mirrors.shows, after.kept, fun text encoded => ?_⟩
  rw [after.text]
  exact Text.Utf8.join_decodeLossy_eq_iff (after.kept.symm.trans encoded)

/-- Writes two letters in two steps, the first of them in two bytes. -/
def wholeLetters : List Word :=
  [encode .movi 3 1 0, encode .movi 4 6 0, encode .syscall 0 0 0, encode .movi 4 9 0,
   encode .syscall 0 0 0, encode .halt 0 0 0, 0xc3, 0xa9, 0, 0x41, 0]

/-- Three steps, a reset and the whole program: both letters are shown. -/
theorem wholeLetters_shown :
    ∃ s, Session.start wholeLetters { memorySize := 11 } = .ok s ∧
      (((s.actAll (.replicate 3 (.operation .step))).reset).performAll (.replicate 6 .step)).output =
        "\u00e9A" := by
  obtain ⟨s, started, written⟩ :
      ∃ s, Session.start wholeLetters { memorySize := 11 } = .ok s ∧
        let begun := (s.actAll (.replicate 3 (.operation .step))).reset
        ((Bare.boot .standard wholeLetters { memorySize := 11 }).meetAll
          (begun.events (.replicate 6 .step))).written =
            ["", "", "\u00e9", "", "A", ""].map Text.Utf8.encode :=
    ⟨_, rfl, by decide +kernel⟩
  obtain ⟨roles, checked, shown⟩ := output_eq_text_iff started
  obtain rfl : Roles.standard = roles := Except.ok.inj checked
  obtain ⟨_, kept, tells⟩ := shown _ (.reset (.replicate 3 (.operation .step))) (.replicate 6 .step)
  refine ⟨s, started, (tells "\u00e9A" ?_).2 ?_⟩
  · rw [kept, written]
    decide +kernel
  · rw [written]
    intro bytes member
    obtain ⟨part, _, rfl⟩ := List.mem_map.1 member
    exact ⟨part, rfl⟩

/-- Everything that was written is the encoding of one letter, and two replacement characters are shown. -/
theorem splitLetter_lost :
    ∃ s, Session.start splitLetter { memorySize := 10 } = .ok s ∧
      let b := (Bare.boot .standard splitLetter { memorySize := 10 }).meetAll
        (s.events (.replicate 5 .step))
      b.machine.devices.output.toList = Text.Utf8.encode "\u00e9" ∧
        b.written = [[], [], [0xc3], [], [0xa9]] ∧
        (s.performAll (.replicate 5 .step)).output = "\ufffd\ufffd" :=
  ⟨_, rfl, by decide +kernel, by decide +kernel, by decide +kernel⟩

end RegisterMachine.Debugger.Session

import RegisterMachine.CommandLine.Perform
import RegisterMachine.Proofs.CommandLine.FinalState
import RegisterMachine.Proofs.Image.File
import RegisterMachine.Proofs.Machine.LastFault

/-! # Traces and exit codes

A trace adds lines to what a command says about a run and changes nothing else: the exit code, the
output and the final state are those of the same command without it. The exit code tells whether the
last cycle of the run went wrong; a run that ends without that has executed `halt` or has reached its
limit.

A command reports exactly the runs that end (`Ends`): enough fuel performs such a run
(`runImage_of_ends`), and no fuel performs another one (`ends_of_runImage`). What the report tells is
read off the machine that the run leaves (`Tells`).
-/

namespace RegisterMachine

/-! ## How a run ends -/

namespace Machine

variable {capacity : Nat}

/-- The last cycle was a fault or a program error. -/
def Failed (outcomes : List Outcome) : Prop :=
  ∃ last, outcomes.getLast? = some last ∧
    ((∃ fault, last = .faulted fault) ∨ ∃ error, last = .fatal error)

theorem failed_iff {outcomes : List Outcome} :
    Failed outcomes ↔ (outcomes.getLast?.bind Outcome.error?).isSome ∨
      (outcomes.getLast?.bind Outcome.fault?).isSome := by
  unfold Failed
  cases outcomes.getLast? with
  | none => simp
  | some outcome => cases outcome <;> simp [Outcome.error?, Outcome.fault?]

theorem failed_of_error {outcomes : List Outcome} {error : ProgramError}
    (answered : answer outcomes = .error error) : Failed outcomes := by
  rw [failed_iff]
  unfold answer at answered
  cases refused : outcomes.getLast?.bind Outcome.error? with
  | some _ => exact .inl rfl
  | none =>
    rw [refused] at answered
    cases answered

/-- The last instruction was `halt`, and it has stopped the machine. -/
def Halted (outcomes : List Outcome) (m : Machine capacity Memory Console) : Prop :=
  ∃ instruction, outcomes.getLast? = some (.executed instruction) ∧
    instruction.opcode? = some .halt ∧ m.running = false

/-- As many instructions were completed as the limit allows, and the machine could go on. -/
def Limited (limit : Option Nat) (outcomes : List Outcome) (m : Machine capacity Memory Console) :
    Prop :=
  limit = some outcomes.length ∧ (∀ outcome ∈ outcomes, outcome.completes) ∧ m.running = true

variable {limit : Option Nat} {outcomes : List Outcome} {m m' : Machine capacity Memory Console}

theorem Runs.halted_or_limited (run : Runs limit m outcomes m') (begun : m.running = true)
    (passed : ¬ Failed outcomes) : Halted outcomes m' ∨ Limited limit outcomes m' := by
  have accepted : outcomes.getLast?.bind Outcome.error? = none := by
    rw [failed_iff, not_or] at passed
    simpa using passed.1
  cases running : m'.running with
  | true =>
    -- Only the limit has ended it, and a cycle that does not count would have stopped it.
    refine .inr ⟨?_, ?_, running⟩
    · simpa [running, accepted] using run.ended
    · have counted : ¬ outcomes.countP Outcome.completes < outcomes.length := by
        intro uncounted
        rw [run.performed.stopped_of_uncounted accepted uncounted] at running
        cases running
      exact List.countP_eq_length.1 (Nat.le_antisymm List.countP_le_length (Nat.not_lt.1 counted))
  | false =>
    obtain ⟨_, last, ⟨fault, rfl⟩ | ⟨instruction, rfl, halts⟩⟩ :=
      run.performed.last_of_stopped begun running accepted
    · exact (passed ⟨_, last, .inl ⟨fault, rfl⟩⟩).elim
    · exact .inl ⟨instruction, last, halts, running⟩

theorem not_failed_of_ended (ended : Halted outcomes m ∨ Limited limit outcomes m) :
    ¬ Failed outcomes := by
  rintro ⟨last, isLast, wrong⟩
  obtain ⟨instruction, halts, _, _⟩ | ⟨_, completed, _⟩ := ended
  · rw [halts] at isLast
    obtain rfl := Option.some.inj isLast
    simp at wrong
  · have counted := completed last (List.mem_of_getLast? isLast)
    obtain ⟨fault, rfl⟩ | ⟨error, rfl⟩ := wrong <;> cases counted

end Machine

open Machine

namespace CommandLine

/-! ## Executions -/

/-- The run of a machine ends with this answer and this machine. Under a limit every run ends. -/
def Ends (limit : Option Word) (w : Workstation)
    (ending : Except ProgramError Nat × Workstation) : Prop :=
  match limit with
  | some bound => w.runFor bound.toNat = ending
  | none => ∃ fuel, w.runUntilStopped fuel = some ending

namespace Execution

variable {limit : Option Word} {w : Workstation} {ending : Except ProgramError Nat × Workstation}
  {e e' : Execution} {fuel fuel' : Nat}

theorem exitCode_iff {limit : Option Nat} {outcomes : List Outcome}
    (run : Runs limit w outcomes e.machine) (answered : e.result = answer outcomes)
    (fresh : w.processor.fault = none) :
    (e.exitCode = 1 ↔ Failed outcomes) ∧ (e.exitCode = 0 ↔ ¬ Failed outcomes) := by
  -- With no fault from before, the one on record is that of the last cycle.
  have recorded := run.performed.fault
  rw [fresh, Option.or_none] at recorded
  rw [failed_iff, exitCode, answered, answer, recorded]
  cases outcomes.getLast?.bind Outcome.error? with
  | some error => simp
  | none => cases outcomes.getLast?.bind Outcome.fault? <;> simp

/-- An execution that ends with a record of its instructions ends without one, too. -/
theorem quiet_of_traced (ran : Execution.run fuel true limit w = some e) :
    Execution.run fuel false limit w = some { e with trace := [] } := by
  obtain ⟨⟨result, lines, machine⟩, traced, rfl⟩ := Option.map_eq_some_iff.1 ran
  cases limit with
  | some bound =>
    have agree := (loopsAgree w).tracedOnly _ _ _ _ _ traced
    simp only [Execution.run, agree]
  | none =>
    have agree := (loopsAgree w).tracedUnlimited fuel
    rw [show w.runTraced fuel none = some (result, lines, machine) from traced] at agree
    simp only [Execution.run, ← agree, Option.map_some]

theorem quiet_unique (ran : Execution.run fuel false limit w = some e)
    (ran' : Execution.run fuel' false limit w = some e') : e = e' := by
  cases limit with
  | some bound => exact Option.some.inj (ran.symm.trans ran')
  | none =>
    obtain ⟨result, ended, rfl⟩ := Option.map_eq_some_iff.1 ran
    obtain ⟨result', ended', rfl⟩ := Option.map_eq_some_iff.1 ran'
    rw [runUntilStopped_unique ended ended']

/-- Whichever loop performs an execution, it shows how the run of its machine ends. -/
theorem ends_of_run {traced : Bool} (ran : Execution.run fuel traced limit w = some e) :
    Ends limit w (e.result, e.machine) := by
  obtain ⟨e', quiet, result, machine⟩ : ∃ e', Execution.run fuel false limit w = some e' ∧
      e'.result = e.result ∧ e'.machine = e.machine := by
    cases traced with
    | true => exact ⟨_, quiet_of_traced ran, rfl, rfl⟩
    | false => exact ⟨e, ran, rfl, rfl⟩
  rw [← result, ← machine]
  cases limit with
  | some bound =>
    obtain rfl := Option.some.inj quiet
    rfl
  | none =>
    obtain ⟨_, stopped, rfl⟩ := Option.map_eq_some_iff.1 quiet
    exact ⟨fuel, stopped⟩

theorem run_of_limit (w : Workstation) (traced : Bool) {bound : Word} (enough : bound.toNat ≤ fuel) :
    ∃ lines, Execution.run fuel traced (some bound) w =
      some ⟨(w.runFor bound.toNat).1, lines, (w.runFor bound.toNat).2⟩ := by
  cases traced with
  | true =>
    obtain ⟨lines, agree⟩ := (loopsAgree w).traced bound.toNat fuel enough
    exact ⟨lines.toList, congrArg (Option.map _) agree⟩
  | false => exact ⟨[], rfl⟩

theorem run_of_stopped {enough : Nat} (stopped : w.runUntilStopped enough = some ending)
    (traced : Bool) (le : enough ≤ fuel) :
    ∃ lines, Execution.run fuel traced none w = some ⟨ending.1, lines, ending.2⟩ := by
  -- A run that has stopped is a run of as many cycles as the fuel allows, and more fuel changes nothing.
  obtain ⟨ran, settled⟩ := runUntilStopped_eq_some_iff.1 stopped
  subst ran
  have later : w.runUntilStopped fuel = some (w.runFor enough) :=
    ((loopsAgree w).settled enough settled fuel le).2
  cases traced with
  | true =>
    have agree := (loopsAgree w).tracedUnlimited fuel
    rw [later] at agree
    obtain ⟨⟨answer, lines, w'⟩, ended, same⟩ := Option.map_eq_some_iff.1 agree
    rw [← same]
    exact ⟨lines.toList, congrArg (Option.map _) ended⟩
  | false => exact ⟨[], congrArg (Option.map _) later⟩

/-- Enough fuel performs a run that ends, with and without a record. -/
theorem run_of_ends (ends : Ends limit w ending) (traced : Bool) :
    ∃ enough, ∀ fuel, enough ≤ fuel →
      ∃ lines, Execution.run fuel traced limit w = some ⟨ending.1, lines, ending.2⟩ := by
  cases limit with
  | some bound =>
    obtain rfl : w.runFor bound.toNat = ending := ends
    exact ⟨bound.toNat, fun fuel enough => run_of_limit w traced enough⟩
  | none =>
    obtain ⟨enough, stopped⟩ := ends
    exact ⟨enough, fun fuel le => run_of_stopped stopped traced le⟩

theorem runs_of_ends (ends : Ends limit w ending) :
    ∃ outcomes, Runs (limit.map UInt64.toNat) w outcomes ending.2 ∧ ending.1 = answer outcomes := by
  cases limit with
  | some bound =>
    obtain rfl : w.runFor bound.toNat = ending := ends
    exact runs_runFor bound.toNat w
  | none =>
    obtain ⟨fuel, stopped⟩ := ends
    exact runs_of_runUntilStopped stopped

end Execution

/-! ## Preparations -/

namespace Stage

variable {α β : Type}

theorem result_bind (stage : Stage α) (next : α → Stage β) :
    (stage >>= next).result = stage.result.bind fun a => (next a).result := by
  obtain ⟨emissions, result⟩ := stage
  cases result <;> rfl

def Silent (stage : Stage α) : Prop :=
  stage.emissions.flatMap Emission.outputBytes = []

theorem silent_bind {stage : Stage α} {next : α → Stage β} (first : stage.Silent)
    (rest : ∀ a, (next a).Silent) : (stage >>= next).Silent := by
  obtain ⟨emissions, result⟩ := stage
  cases result with
  | none => exact first
  | some a =>
    show (emissions ++ (next a).emissions).flatMap Emission.outputBytes = []
    rw [List.flatMap_append, show emissions.flatMap Emission.outputBytes = [] from first, rest a]
    rfl

end Stage

section Booting

variable {read : FileReader} {machine : MachineOptions} {c : Configuration} {program : List Word}

theorem check_of_resolved (resolved : (resolveConfiguration read machine).result = some c) :
    ∃ roles, c.roles.check = .ok roles := by
  rw [resolveConfiguration, Stage.result_bind] at resolved
  obtain ⟨given, _, checked⟩ := Option.bind_eq_some_iff.1 resolved
  generalize machine.override given = merged at checked
  cases valid : merged.validate with
  | error error =>
    simp only [valid] at checked
    cases checked
  | ok _ =>
    simp only [valid] at checked
    obtain rfl := Option.some.inj checked
    cases roles : merged.roles.check with
    | error error =>
      rw [Configuration.validate, roles] at valid
      cases valid
    | ok chosen => exact ⟨chosen, rfl⟩

theorem boot_of_fits (resolved : (resolveConfiguration read machine).result = some c)
    (fits : program.length ≤ c.memorySize.toNat - c.loadAddress.toNat) (input : List UInt8) :
    ∃ w, (boot c program input).result = some w := by
  obtain ⟨roles, checked⟩ := check_of_resolved resolved
  have loaded : ∃ memory,
      (Memory.zeroed c.memorySize).loadProgram c.loadAddress program = (.ok (), memory) := by
    have room : program.length ≤ (Memory.zeroed c.memorySize).available c.loadAddress := by
      simpa [Memory.available, Memory.zeroed] using fits
    exact ⟨_, if_pos room⟩
  obtain ⟨memory, loaded⟩ := loaded
  simp only [boot, loaded, checked]
  exact ⟨_, rfl⟩

/-- A machine that is about to run a program runs and has met no fault. -/
theorem fresh_of_boot {input : List UInt8} {w : Workstation}
    (booted : (boot c program input).result = some w) :
    w.running = true ∧ w.processor.fault = none := by
  unfold boot at booted
  split at booted
  · cases booted
  · split at booted
    · cases booted
    · obtain rfl := Option.some.inj booted
      exact ⟨Registers.running_setRunning_true _, rfl⟩

end Booting

section Preparing

variable {read : FileReader} {input : List UInt8} {image : String} {machine : MachineOptions}
  {options : RunOptions} {c : Configuration} {program : List Word} {w : Workstation}
  {limit : Option Word}

theorem prepareRun_of_boot (options : RunOptions)
    (resolved : (resolveConfiguration read machine).result = some c)
    (opened : (openImage read image).result = some program)
    (booted : (boot c program input).result = some w) :
    (prepareRun read input image machine options).result =
      some (w, options.maxCycles.or c.maxCycles) := by
  simp only [prepareRun, Stage.result_bind, resolved, opened, booted, Option.bind_some]
  rfl

theorem fresh_of_prepareRun
    (prepared : (prepareRun read input image machine options).result = some (w, limit)) :
    w.running = true ∧ w.processor.fault = none := by
  simp only [prepareRun, Stage.result_bind] at prepared
  obtain ⟨c, _, prepared⟩ := Option.bind_eq_some_iff.1 prepared
  obtain ⟨program, _, prepared⟩ := Option.bind_eq_some_iff.1 prepared
  obtain ⟨_, booted, prepared⟩ := Option.bind_eq_some_iff.1 prepared
  obtain ⟨rfl, _⟩ := Prod.mk.inj (Option.some.inj prepared)
  exact fresh_of_boot booted

theorem silent_prepareRun (read : FileReader) (input : List UInt8) (image : String)
    (machine : MachineOptions) (options : RunOptions) :
    (prepareRun read input image machine options).Silent := by
  have configuration : (readConfiguration read machine.configuration).Silent := by
    unfold readConfiguration
    split
    · rfl
    · split <;> rfl
  have resolved : (resolveConfiguration read machine).Silent := by
    refine Stage.silent_bind configuration fun given => ?_
    dsimp only
    split <;> rfl
  have opened : (openImage read image).Silent := by
    unfold openImage
    split
    · rfl
    · split <;> rfl
  have booted (c : Configuration) (program : List Word) : (boot c program input).Silent := by
    unfold boot
    split
    · rfl
    · split <;> rfl
  refine Stage.silent_bind resolved fun c => Stage.silent_bind opened fun program => ?_
  exact Stage.silent_bind (booted c program) fun w => rfl

end Preparing

theorem openImage_ofWords {read : FileReader} {path : String} {words : List Word}
    (content : read path = .ok (Image.encode (.ofPath path) (Image.ofWords words)))
    (nonempty : words ≠ []) : (openImage read path).result = some words := by
  obtain ⟨loaded, opened, same⟩ := Image.load_of_content content
  rw [Image.words_ofWords] at same
  have filled : loaded.size ≠ 0 := by
    intro empty
    rw [Image.words, List.eq_nil_of_length_eq_zero empty] at same
    exact nonempty same.symm
  simp only [openImage, opened, if_neg filled]
  exact congrArg some same

/-! ## Reports -/

/-- The second report says what the first one says, with the lines of a trace put in. -/
structure AddsTrace (quiet traced : Report) : Prop where
  exitCode : traced.exitCode = quiet.exitCode
  output : traced.outputBytes = quiet.outputBytes
  said : ∃ before after, ∃ lines : List TraceLine, quiet.emissions = before ++ after ∧
    traced.emissions = before ++ lines.map (fun line => .notice (line.render ++ "\n")) ++ after

theorem emissions_eq (e : Execution) (dumpState : Bool) :
    e.emissions dumpState = e.trace.map (fun line => .notice (line.render ++ "\n")) ++
      Execution.emissions { e with trace := [] } dumpState := by
  simp only [Execution.emissions, List.map_nil, List.nil_append, List.append_assoc]
  rfl

theorem addsTrace (said : List Emission) (e : Execution) (dumpState : Bool) :
    AddsTrace
      ⟨said ++ Execution.emissions { e with trace := [] } dumpState,
        Execution.exitCode { e with trace := [] }⟩
      ⟨said ++ e.emissions dumpState, e.exitCode⟩ where
  exitCode := rfl
  output := by
    simp only [Report.outputBytes, List.flatMap_append, Execution.outputBytes_emissions]
    rfl
  said := ⟨said, _, e.trace, rfl, by rw [emissions_eq, List.append_assoc]⟩

/-- The report shows the machine that the run has left, and its exit code tells how the run has ended. -/
structure Tells (report : Report) (dumpState : Bool) (limit : Option Word) (w : Workstation)
    (ending : Except ProgramError Nat × Workstation) : Prop where
  shows : Shows report ending.2 dumpState
  exitCode : ∃ outcomes, Runs (limit.map UInt64.toNat) w outcomes ending.2 ∧
    ending.1 = answer outcomes ∧ (report.exitCode = 1 ↔ Failed outcomes) ∧
    (report.exitCode = 0 ↔
      Halted outcomes ending.2 ∨ Limited (limit.map UInt64.toNat) outcomes ending.2)

theorem tells {said : List Emission} (silent : said.flatMap Emission.outputBytes = [])
    {limit : Option Word} {w : Workstation} {e : Execution} (begun : w.running = true)
    (fresh : w.processor.fault = none) (ends : Ends limit w (e.result, e.machine))
    (dumpState : Bool) :
    Tells ⟨said ++ e.emissions dumpState, e.exitCode⟩ dumpState limit w (e.result, e.machine) where
  shows := e.shows silent dumpState e.exitCode
  exitCode := by
    obtain ⟨outcomes, run, answered⟩ := Execution.runs_of_ends ends
    obtain ⟨one, zero⟩ := Execution.exitCode_iff run answered fresh
    refine ⟨outcomes, run, answered, one, zero.trans ⟨?_, not_failed_of_ended⟩⟩
    exact run.halted_or_limited begun

/-- A command runs the machine that it has prepared, if there is one, and the trace has no part in the
preparation. -/
theorem runImage_eq (fuel : Nat) (read : FileReader) (input : List UInt8) (image : String)
    (machine : MachineOptions) (options : RunOptions) (traced : Bool) :
    runImage fuel read input image machine { options with trace := traced } =
      match (prepareRun read input image machine options).result with
      | none => some ⟨(prepareRun read input image machine options).emissions, 1⟩
      | some (w, limit) =>
        (Execution.run fuel traced limit w).map fun e =>
          ⟨(prepareRun read input image machine options).emissions ++
            e.emissions options.dumpState, e.exitCode⟩ := by
  have same : prepareRun read input image machine { options with trace := traced } =
      prepareRun read input image machine options := rfl
  rw [runImage, same]
  obtain ⟨emissions, result⟩ := prepareRun read input image machine options
  cases result <;> rfl

section Commands

variable {read : FileReader} {input : List UInt8} {image : String} {machine : MachineOptions}
  {options : RunOptions} {fuel fuel' : Nat} {w : Workstation} {limit : Option Word}
  {ending : Except ProgramError Nat × Workstation} {report : Report}

theorem runImage_of_ends
    (prepared : (prepareRun read input image machine options).result = some (w, limit))
    (ends : Ends limit w ending) (trace : Bool) :
    ∃ enough, ∀ fuel, enough ≤ fuel → ∃ report,
      runImage fuel read input image machine { options with trace } = some report ∧
        Tells report options.dumpState limit w ending := by
  obtain ⟨enough, runs⟩ := Execution.run_of_ends ends trace
  refine ⟨enough, fun fuel le => ?_⟩
  obtain ⟨lines, ran⟩ := runs fuel le
  obtain ⟨begun, fresh⟩ := fresh_of_prepareRun prepared
  rw [runImage_eq, prepared]
  simp only [ran]
  exact ⟨_, rfl, tells (silent_prepareRun read input image machine options) begun fresh ends _⟩

theorem ends_of_runImage {trace : Bool}
    (prepared : (prepareRun read input image machine options).result = some (w, limit))
    (ran : runImage fuel read input image machine { options with trace } = some report) :
    ∃ ending, Ends limit w ending ∧ Tells report options.dumpState limit w ending := by
  obtain ⟨begun, fresh⟩ := fresh_of_prepareRun prepared
  rw [runImage_eq, prepared] at ran
  obtain ⟨e, executed, rfl⟩ := Option.map_eq_some_iff.1 ran
  have ends := Execution.ends_of_run executed
  exact ⟨_, ends, tells (silent_prepareRun read input image machine options) begun fresh ends _⟩

/-- Whether a command ends does not depend on the trace. -/
theorem runImage_ends {trace : Bool}
    (ends : ∃ fuel, (runImage fuel read input image machine { options with trace }).isSome)
    (trace' : Bool) :
    ∃ fuel, (runImage fuel read input image machine { options with trace := trace' }).isSome := by
  obtain ⟨fuel, ends⟩ := ends
  obtain ⟨report, ran⟩ := Option.isSome_iff_exists.1 ends
  cases prepared : (prepareRun read input image machine options).result with
  | none => exact ⟨0, by rw [runImage_eq, prepared]; rfl⟩
  | some ready =>
    obtain ⟨_, ends, _⟩ := ends_of_runImage prepared ran
    obtain ⟨enough, reported⟩ := runImage_of_ends prepared ends trace'
    obtain ⟨report', ran', _⟩ := reported enough (Nat.le_refl enough)
    exact ⟨enough, Option.isSome_iff_exists.2 ⟨report', ran'⟩⟩

theorem addsTrace_of_runImage {traced quiet : Report}
    (ran : runImage fuel read input image machine { options with trace := true } = some traced)
    (ran' : runImage fuel' read input image machine { options with trace := false } = some quiet) :
    AddsTrace quiet traced := by
  rw [runImage_eq] at ran ran'
  generalize prepareRun read input image machine options = prepared at ran ran'
  obtain ⟨said, result⟩ := prepared
  cases result with
  | none =>
    -- Nothing is run, and both reports are about the preparation.
    obtain rfl := Option.some.inj ran
    obtain rfl := Option.some.inj ran'
    exact ⟨rfl, rfl, said, [], [], by simp⟩
  | some prepared =>
    obtain ⟨e, executed, rfl⟩ := Option.map_eq_some_iff.1 ran
    obtain ⟨e', executed', rfl⟩ := Option.map_eq_some_iff.1 ran'
    rw [Execution.quiet_unique executed' (Execution.quiet_of_traced executed)]
    exact addsTrace said e options.dumpState

end Commands

/-- What a command that runs an image is to report. -/
structure Reported (read : FileReader) (input : List UInt8) (image : String)
    (machine : MachineOptions) (options : RunOptions) : Prop where
  /-- An image that fits is put on a machine and given its limit. -/
  fits : ∀ c program, (resolveConfiguration read machine).result = some c →
    (openImage read image).result = some program →
    program.length ≤ c.memorySize.toNat - c.loadAddress.toNat →
    ∃ w, (boot c program input).result = some w ∧
      (prepareRun read input image machine options).result =
        some (w, options.maxCycles.or c.maxCycles)
  /-- Without a machine to run, the report is about the preparation, and the exit code is 1. -/
  unprepared : (prepareRun read input image machine options).result = none → ∀ fuel trace,
    runImage fuel read input image machine { options with trace } =
      some ⟨(prepareRun read input image machine options).emissions, 1⟩
  /-- Under a limit there is a report as soon as the fuel reaches that far. -/
  limited : ∀ w bound,
    (prepareRun read input image machine options).result = some (w, some bound) →
    ∀ fuel trace, bound.toNat ≤ fuel →
      (runImage fuel read input image machine { options with trace }).isSome
  /-- With enough fuel every run that ends is reported, with and without a trace. -/
  produced : ∀ w limit ending,
    (prepareRun read input image machine options).result = some (w, limit) →
    Ends limit w ending →
    ∀ trace, ∃ enough, ∀ fuel, enough ≤ fuel → ∃ report,
      runImage fuel read input image machine { options with trace } = some report ∧
        Tells report options.dumpState limit w ending
  /-- Only runs that end are reported. -/
  only : ∀ w limit fuel trace report,
    (prepareRun read input image machine options).result = some (w, limit) →
    runImage fuel read input image machine { options with trace } = some report →
    ∃ ending, Ends limit w ending ∧ Tells report options.dumpState limit w ending
  /-- The command ends with a trace exactly if it ends without one. -/
  ends : (∃ fuel, (runImage fuel read input image machine { options with trace := true }).isSome) ↔
    ∃ fuel, (runImage fuel read input image machine { options with trace := false }).isSome
  /-- A trace makes no other difference than its lines. -/
  addsTrace : ∀ fuel fuel' traced quiet,
    runImage fuel read input image machine { options with trace := true } = some traced →
    runImage fuel' read input image machine { options with trace := false } = some quiet →
    AddsTrace quiet traced

/-- The loops agree on every machine. So a command that runs an image has the same report with and
without a trace, but for the lines of the trace. There is one if the preparation fails, if a limit is set,
and otherwise if the run ends. Its output and its final state are those of the machine that the run
leaves, and its exit code tells how the run has ended. `StringsEnd` stands for every cycle ending; it holds
of the machine of a command. -/
theorem loops_agree_in_reports :
    (∀ {capacity : Nat} {μ δ : Type} [MemoryBus μ] [DeviceBus δ] [StringsEnd μ δ]
      (m : Machine capacity μ δ), LoopsAgree m) ∧
    ∀ (read : FileReader) (input : List UInt8) (image : String) (machine : MachineOptions)
      (options : RunOptions), Reported read input image machine options := by
  refine ⟨fun m => loopsAgree m, fun read input image machine options => ?_⟩
  constructor
  case fits =>
    intro c program resolved opened fits
    obtain ⟨w, booted⟩ := boot_of_fits resolved fits input
    exact ⟨w, booted, prepareRun_of_boot options resolved opened booted⟩
  case unprepared =>
    intro failed fuel trace
    rw [runImage_eq, failed]
  case limited =>
    intro w bound prepared fuel trace enough
    obtain ⟨lines, ran⟩ := Execution.run_of_limit w trace enough
    rw [runImage_eq, prepared]
    simp only [ran, Option.map_some, Option.isSome_some]
  case produced =>
    intro w limit ending prepared ends trace
    exact runImage_of_ends prepared ends trace
  case only =>
    intro w limit fuel trace report prepared ran
    exact ends_of_runImage prepared ran
  case ends => exact ⟨fun ends => runImage_ends ends false, fun ends => runImage_ends ends true⟩
  case addsTrace =>
    intro fuel fuel' traced quiet ran ran'
    exact addsTrace_of_runImage ran ran'

/-- Writes the letter at address 4, then divides by zero at address 3. -/
def letterThenDivision : List Word :=
  [encode .movi 3 1 0, encode .movi 4 4 0, encode .syscall 0 0 0, encode .divi 5 0 0, 0x41, 0]

def letterFiles : FileReader := fun path =>
  .ok (Image.encode (.ofPath path) (Image.ofWords letterThenDivision))

/-- The machine has stopped at the division, with 1 and 4 as the operands of the transfer. -/
def letterTable : String :=
  "\n━━━ Result ━━━\n" ++ "Cycles: 3\n" ++ "Flags:  RUNNING\n" ++
    "r0  = 0x0000000000000003  r1  = 0x0000000000000000  " ++
    "r2  = 0x0000000000000000  r3  = 0x0000000000000001\n" ++
    "r4  = 0x0000000000000004  r5  = 0x0000000000000000  " ++
    "r6  = 0x0000000000000000  r7  = 0x0000000000000000\n" ++
    "r8  = 0x0000000000000000  r9  = 0x0000000000000000  " ++
    "r10 = 0x0000000000000000  r11 = 0x0000000000000000\n" ++
    "r12 = 0x0000000000000000  r13 = 0x0000000000000000  " ++
    "r14 = 0x0000000000000000  r15 = 0x0000000000000000\n"

/-- The program error comes with the last cycle that the limit allows, and every loop reports it. Without
a limit the same run is reported as soon as the fuel is enough, here with the state as a JSON text. -/
theorem letterThenDivision_reported :
    ∃ w, (boot { memorySize := 6 } letterThenDivision []).result = some w ∧
      (∃ lines, w.runTraced 4 (some 4) =
        some (.error (.divisionByZero 3), lines, (w.runFor 4).2)) ∧
      w.runUntilStopped 4 = some (.error (.divisionByZero 3), (w.runFor 4).2) ∧
      (∃ report, runImage 4 letterFiles [] "a" { memorySize := some 6 }
          { maxCycles := some 4, trace := true } = some report ∧
        report.exitCode = 1 ∧ report.outputBytes = [0x41] ∧
        report.emissions.getLast? = some (.notice letterTable)) ∧
      ∃ enough, ∀ fuel, enough ≤ fuel → ∃ report text,
        runImage fuel letterFiles [] "a" { memorySize := some 6 } { dumpState := true } =
            some report ∧
          report.outputBytes = 0x41 :: Text.Utf8.encode text ∧
          Json.parse? text = some (stateRecord (w.runFor 4).2.processor) := by
  obtain ⟨loops, reports⟩ := loops_agree_in_reports
  have resolved : (resolveConfiguration letterFiles { memorySize := some 6 }).result =
      some { memorySize := 6 } := by decide +kernel
  have opened : (openImage letterFiles "a").result = some letterThenDivision :=
    openImage_ofWords rfl (by decide)
  obtain ⟨fits, _, limited, _, only, _⟩ :=
    reports letterFiles [] "a" { memorySize := some 6 } { maxCycles := some 4 }
  obtain ⟨w, booted, prepared⟩ := fits _ _ resolved opened (by decide)
  have seen : (boot { memorySize := 6 } letterThenDivision []).result.map (fun w =>
      ((w.runFor 4).1, (w.runFor 4).2.devices.output.toList, stateText (w.runFor 4).2.processor)) =
        some (.error (.divisionByZero 3), [0x41], letterTable) := by
    decide +kernel
  rw [booted, Option.map_some, Option.some.injEq, Prod.mk.injEq, Prod.mk.injEq] at seen
  obtain ⟨refused, letter, text⟩ := seen
  obtain ⟨lines, traced⟩ := (loops w).traced 4 4 (Nat.le_refl 4)
  have settled : Settled (w.runFor 4) := by
    rw [Settled, refused]
    trivial
  have unlimited := ((loops w).settled 4 settled 4 (Nat.le_refl 4)).2
  refine ⟨w, booted, ⟨lines, refused ▸ traced⟩, by rw [unlimited, ← refused], ?table, ?document⟩
  case table =>
    obtain ⟨report, ran⟩ := Option.isSome_iff_exists.1 (limited w 4 prepared 4 true (by decide))
    obtain ⟨_, rfl, ⟨output, last⟩, outcomes, _, answered, one, _⟩ :=
      only w _ 4 true report prepared ran
    have failed : Failed outcomes := failed_of_error (answered.symm.trans refused)
    refine ⟨report, ran, one.2 failed, output.trans letter, ?_⟩
    rw [last, ← text]
    rfl
  case document =>
    -- The other options prepare the same machine, now without a limit.
    obtain ⟨fits, _, _, produced, _, _⟩ :=
      reports letterFiles [] "a" { memorySize := some 6 } { dumpState := true }
    obtain ⟨_, again, prepared⟩ := fits _ _ resolved opened (by decide)
    obtain rfl := Option.some.inj (booted.symm.trans again)
    obtain ⟨enough, reported⟩ := produced w none _ prepared ⟨4, unlimited⟩ false
    refine ⟨enough, fun fuel le => ?_⟩
    obtain ⟨report, ran, shows, _⟩ := reported fuel le
    cases shows with
    | @document text output read =>
      rw [letter] at output
      exact ⟨report, text, ran, output, read⟩

end CommandLine

end RegisterMachine

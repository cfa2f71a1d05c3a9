import RegisterMachine.Proofs.Debugger.Mirror

/-! # A reset is a fresh start

A session belongs to the program and the configuration that it was started with: nothing that the user
or the host does to it changes the program, its address or the make of the machine (`StartedWith.act`). A
reset depends on nothing else (`StartedWith.reset_eq`), so it leads back to the session that was started,
whatever has happened since. Only breakpoints, the view of memory and the wish to leave outlive it.

Behind the reset the session goes on as the new one does (`Alike`), as long as the breakpoints that it
has kept are not looked at.
-/

namespace RegisterMachine

/-! ## What a host does to processor and memory -/

inductive ProcessorChange where
  -- A number that names no register changes nothing.
  | register (number : Nat) (value : Word)
  | flags (flags : Flags)
  | pc (value : Word)
  | sp (value : Word)
  | push (value : Word)
  | pop
  | clearStack
deriving DecidableEq, Repr

def Processor.change {capacity : Nat} (p : Processor capacity) : ProcessorChange → Processor capacity
  | .register number value => { p with registers := (p.registers.set? number value).getD p.registers }
  | .flags flags => p.setFlags flags
  | .pc value => p.setPc value
  | .sp value => p.setSp value
  | .push value => { p with stack := (p.stack.push value).2 }
  | .pop => { p with stack := p.stack.pop.2 }
  | .clearStack => { p with stack := .empty }

@[simp] theorem Processor.roles_change {capacity : Nat} (p : Processor capacity)
    (change : ProcessorChange) : (p.change change).roles = p.roles := by
  cases change <;> rfl

namespace Debugger

inductive Action where
  | operation (operation : Operation)
  | reset
  | quit
  | processor (change : ProcessorChange)
  | memory (access : MemoryAccess)
deriving DecidableEq, Repr

namespace Session

variable {s t : Session} {program : List Word} {c : Configuration} {roles : Roles}

def act (s : Session) : Action → Session
  | .operation operation => s.perform operation
  | .reset => s.reset
  | .quit => { s with quitting := true }
  | .processor change => { s with machine := s.machine.modifyProcessor (·.change change) }
  | .memory access => { s with machine := { s.machine with memory := s.machine.memory.access access } }

def actAll (s : Session) (actions : List Action) : Session :=
  actions.foldl act s

/-! ## What a session keeps -/

/-- The session has the program, the address and the make of machine that it was started with. -/
structure StartedWith (program : List Word) (c : Configuration) (roles : Roles) (s : Session) :
    Prop where
  program : s.program = program
  loadAddress : s.loadAddress = c.loadAddress
  made : s.machine.OfMake roles c.memorySize

namespace StartedWith

theorem prepared (program : List Word) (c : Configuration) (roles : Roles) :
    StartedWith program c roles
      { machine := .prepared roles c.memorySize program c.loadAddress true
        program
        loadAddress := c.loadAddress } where
  program := rfl
  loadAddress := rfl
  made := (Workstation.ofMake_make roles c.memorySize).restart program c.loadAddress true

theorem congr (kept : StartedWith program c roles s) (machine : t.machine = s.machine)
    (same : t.program = s.program) (address : t.loadAddress = s.loadAddress) :
    StartedWith program c roles t where
  program := same.trans kept.program
  loadAddress := address.trans kept.loadAddress
  made := machine ▸ kept.made

theorem cycle (kept : StartedWith program c roles s) : StartedWith program c roles s.cycle where
  program := (program_cycle s).1.trans kept.program
  loadAddress := (program_cycle s).2.trans kept.loadAddress
  made := by
    rw [machine_cycle]
    exact kept.made.lend_step.same ⟨rfl, rfl, rfl⟩ rfl rfl

theorem step (kept : StartedWith program c roles s) : StartedWith program c roles s.step := by
  unfold Session.step
  split
  · exact kept.congr rfl rfl rfl
  · split
    · exact kept.cycle
    · exact kept.congr rfl rfl rfl

theorem perform (kept : StartedWith program c roles s) (operation : Operation) :
    StartedWith program c roles (s.perform operation) := by
  cases operation with
  | step => exact kept.step
  | tick =>
    cases due : s.due with
    | true =>
      simp only [Session.perform, tick_of_due due]
      exact kept.step
    | false =>
      obtain ⟨status, late⟩ := tick_of_not_due due
      simp only [Session.perform, late]
      exact kept.congr rfl rfl rfl
  | run | scrollUp => exact kept.congr rfl rfl rfl
  | toggleBreakpoint =>
    simp only [Session.perform, Session.toggleBreakpoint]
    split <;> exact kept.congr rfl rfl rfl
  | scrollDown =>
    simp only [Session.perform, Session.scrollDown]
    split
    · exact kept.congr rfl rfl rfl
    · exact kept
  | pushInput bytes => exact ⟨kept.program, kept.loadAddress, kept.made.same ⟨rfl, rfl, rfl⟩ rfl rfl⟩

theorem reset_eq (kept : StartedWith program c roles s) :
    s.reset =
      { s with
        machine := .prepared roles c.memorySize program c.loadAddress true
        running := false
        status := .reset
        fatal := none
        output := "" } := by
  rw [reset, kept.made.restart_eq, kept.program, kept.loadAddress]

theorem act (kept : StartedWith program c roles s) (action : Action) :
    StartedWith program c roles (s.act action) := by
  cases action with
  | operation operation => exact kept.perform operation
  | reset => exact ⟨kept.program, kept.loadAddress, kept.made.restart _ _ _⟩
  | quit => exact kept.congr rfl rfl rfl
  | processor change =>
    have roles := Processor.roles_change s.machine.processor change
    exact ⟨kept.program, kept.loadAddress, kept.made.same ⟨roles, rfl, rfl⟩ rfl rfl⟩
  | memory access =>
    have size := Memory.size_access s.machine.memory access
    exact ⟨kept.program, kept.loadAddress, kept.made.same ⟨rfl, size, rfl⟩ rfl rfl⟩

theorem actAll (kept : StartedWith program c roles s) (actions : List Action) :
    StartedWith program c roles (s.actAll actions) := by
  induction actions generalizing s with
  | nil => exact kept
  | cons action actions inductionHypothesis => exact inductionHypothesis (kept.act action)

theorem loads (kept : StartedWith program c roles s)
    (fits : program.length ≤ (Memory.zeroed c.memorySize).available c.loadAddress) :
    (s.machine.memory.clear.loadProgram s.loadAddress s.program).1 = .ok () := by
  rw [Memory.clear_eq kept.made.size, kept.program, kept.loadAddress, Memory.loadProgram, if_pos fits]

end StartedWith

/-! ## Sessions that go on alike -/

/-- The two sessions differ at most in breakpoints, view, status and the wish to leave. -/
structure Alike (s t : Session) : Prop where
  machine : t.machine = s.machine
  program : t.program = s.program
  loadAddress : t.loadAddress = s.loadAddress
  running : t.running = s.running
  fatal : t.fatal = s.fatal
  output : t.output = s.output

namespace Alike

theorem cycle (alike : Alike s t) : Alike s.cycle t.cycle where
  machine := by rw [machine_cycle, machine_cycle, alike.machine]
  program := by rw [(program_cycle t).1, (program_cycle s).1, alike.program]
  loadAddress := by rw [(program_cycle t).2, (program_cycle s).2, alike.loadAddress]
  running := by rw [running_cycle, running_cycle, alike.machine, alike.running]
  fatal := by rw [fatal_cycle, fatal_cycle, alike.machine, alike.fatal]
  output := by rw [output_cycle, output_cycle, alike.machine, alike.output]

theorem step (alike : Alike s t) : Alike s.step t.step := by
  have cycled := alike.cycle
  obtain ⟨_, _, _, _, _, _, _, _, _, _⟩ := t
  obtain ⟨rfl, rfl, rfl, rfl, rfl, rfl⟩ := alike
  unfold Session.step
  dsimp only
  split
  · exact ⟨rfl, rfl, rfl, rfl, rfl, rfl⟩
  · split
    · exact cycled
    · exact ⟨rfl, rfl, rfl, rfl, rfl, rfl⟩

/-- Only a tick looks at the breakpoints. -/
theorem act (alike : Alike s t) {action : Action} (untimed : action ≠ .operation .tick) :
    Alike (s.act action) (t.act action) := by
  have stepped := alike.step
  obtain ⟨_, _, _, _, _, _, _, _, _, _⟩ := t
  obtain ⟨rfl, rfl, rfl, rfl, rfl, rfl⟩ := alike
  cases action with
  | operation operation =>
    cases operation with
    | step => exact stepped
    | tick => exact absurd rfl untimed
    | run | scrollUp | pushInput _ => exact ⟨rfl, rfl, rfl, rfl, rfl, rfl⟩
    | toggleBreakpoint =>
      simp only [Session.act, perform, toggleBreakpoint]
      split <;> split <;> exact ⟨rfl, rfl, rfl, rfl, rfl, rfl⟩
    | scrollDown =>
      simp only [Session.act, perform, scrollDown]
      split <;> split <;> exact ⟨rfl, rfl, rfl, rfl, rfl, rfl⟩
  | reset | quit | processor _ | memory _ => exact ⟨rfl, rfl, rfl, rfl, rfl, rfl⟩

theorem actAll (alike : Alike s t) {actions : List Action} (untimed : .operation .tick ∉ actions) :
    Alike (s.actAll actions) (t.actAll actions) := by
  induction actions generalizing s t with
  | nil => exact alike
  | cons action actions inductionHypothesis =>
    have first := (List.ne_of_not_mem_cons untimed).symm
    exact inductionHypothesis (alike.act first) (List.not_mem_of_not_mem_cons untimed)

end Alike

/-! ## The reset -/

/-- Whatever has happened to a session, its program still fits and a reset makes it the session that was
started, but for breakpoints, view, status and the wish to leave. From then on everything but a tick,
which looks at the breakpoints, does the same to both. -/
theorem reset_is_start (started : Session.start program c = .ok s) (history : List Action) :
    let t := s.actAll history
    (t.machine.memory.clear.loadProgram t.loadAddress t.program).1 = .ok () ∧
      t.reset =
        { s with
          breakpoints := t.breakpoints
          quitting := t.quitting
          status := .reset
          scroll := t.scroll } ∧
      ∀ later : List Action, .operation .tick ∉ later →
        Alike (s.actAll later) (t.reset.actAll later) := by
  obtain ⟨roles, checked, fits, rfl⟩ := eq_of_start started
  have fresh : StartedWith program c roles
      { machine := .prepared roles c.memorySize program c.loadAddress true, program,
        loadAddress := c.loadAddress } :=
    ⟨rfl, rfl, (Workstation.ofMake_make roles c.memorySize).restart _ _ _⟩
  have after := fresh.actAll history
  have reset := after.reset_eq
  refine ⟨after.loads fits, ?_, fun later untimed => ?_⟩
  · rw [reset, after.program, after.loadAddress]
  · refine Alike.actAll ?_ untimed
    rw [reset]
    exact ⟨rfl, after.program, after.loadAddress, rfl, rfl, rfl⟩

/-- Stops at a program error, behind which the host changes processor and memory. -/
def meddledHistory : List Action :=
  interruptedHistory.map .operation ++
    [.processor (.register 3 9), .processor (.push 5), .processor (.pc 77), .processor (.flags ⟨6⟩),
     .memory (.write 0 1), .memory (.loadString 4 [1, 2]), .quit]

/-- Behind the reset the machine is the new one, and it is so behind each of five steps. -/
theorem splitLetter_reset :
    ∃ s, Session.start splitLetter { memorySize := 10 } = .ok s ∧
      (s.actAll meddledHistory).fatal = some (.divisionByZero 5) ∧
      (s.actAll meddledHistory).machine ≠ s.machine ∧
      (s.actAll meddledHistory).reset.machine = s.machine ∧
      ((s.actAll meddledHistory).reset.actAll (.replicate 5 (.operation .step))).machine =
        (s.actAll (.replicate 5 (.operation .step))).machine := by
  obtain ⟨s, started, blocked, changed⟩ :
      ∃ s, Session.start splitLetter { memorySize := 10 } = .ok s ∧
        (s.actAll meddledHistory).fatal = some (.divisionByZero 5) ∧
        (s.actAll meddledHistory).machine ≠ s.machine :=
    ⟨_, rfl, by decide +kernel, by decide +kernel⟩
  obtain ⟨_, same, later⟩ := reset_is_start started meddledHistory
  have machine : (s.actAll meddledHistory).reset.machine = s.machine := by rw [same]
  have steps := later (.replicate 5 (.operation .step)) (by decide)
  exact ⟨s, started, blocked, changed, machine, steps.machine⟩

end Session

end Debugger

end RegisterMachine

import RegisterMachine.Debugger.Breakpoints
import RegisterMachine.Debugger.Status
import RegisterMachine.Host.Configuration
import RegisterMachine.Machine.Step
import RegisterMachine.Machine.Workstation
import RegisterMachine.Text.Utf8

/-! # Debugging sessions

A workstation under the control of a user: single steps, continuous execution that pauses at
breakpoints, resets, and a view of memory that scrolls. The session keeps the text that the program has
written, and the program error that stopped it until the next reset.

Continuous execution is a mode of the session. Each `tick` in this mode performs one step, unless the
machine does not run or stands at a breakpoint: then the mode ends instead.
-/

namespace RegisterMachine.Debugger

/-! ## Errors -/

inductive SessionError where
  | roles (error : RoleError)
  | tooLarge (size memorySize : Nat)
deriving DecidableEq, Repr

def SessionError.message : SessionError → String
  | .roles error => error.message
  | .tooLarge size memorySize =>
    "program of " ++ Text.decimal size ++ " words does not fit in " ++ Text.decimal memorySize ++
      " words of memory"

/-! ## Sessions -/

structure Session where
  /-- The machine that is debugged. Memory and console are lent to it for the duration of a cycle. -/
  machine : Workstation
  /-- The program, loaded again at each reset. -/
  program : List Word
  loadAddress : Word
  /-- Where continuous execution pauses. -/
  breakpoints : Breakpoints := {}
  running : Bool := false
  quitting : Bool := false
  status : Status := .ready
  /-- The program error that stopped the program, until the next reset. -/
  fatal : Option ProgramError := none
  /-- The text that the program has written since the last reset. -/
  output : String := ""
  /-- The first cell in the view of memory. -/
  scroll : Nat := 0
deriving DecidableEq, Repr

structure WindowRow where
  address : Word
  text : String
  /-- Whether the program counter stands here. -/
  current : Bool
deriving DecidableEq, Repr

namespace Session

/-! ## Beginning -/

/-- Goes back to the freshly loaded program. Breakpoints and the view of memory stay. -/
def reset (s : Session) : Session :=
  { s with
    machine := s.machine.restart s.program s.loadAddress true
    running := false
    status := .reset
    fatal := none
    output := "" }

def start (program : List Word) (c : Configuration) : Except SessionError Session :=
  match c.roles.check with
  | .error e => .error (.roles e)
  | .ok roles =>
    let machine := (Workstation.make roles c.memorySize).detach
    if program.length ≤ machine.memory.available c.loadAddress then
      .ok { Session.reset { machine, program, loadAddress := c.loadAddress } with status := .ready }
    else .error (.tooLarge program.length c.memorySize.toNat)

/-! ## Execution -/

/-- Adds what the program has written in the last step to the session's text. -/
def collect (s : Session) : Session :=
  match s.machine.takeOutput with
  | ([], _) => s
  | (bytes, machine) => { s with machine, output := s.output ++ Text.Utf8.decodeLossy bytes }

/-- Records how a cycle that began at an address ended. -/
def record (s : Session) (pc : Word) : Outcome → Session
  | .executed instruction => { s with status := .executed pc instruction }
  | .faulted fault => { s with status := .faulted pc fault, running := false }
  | .idle => { s with running := false }
  | .fatal error => { s with status := .fatal error, fatal := some error, running := false }

def cycle (s : Session) : Session :=
  match s.machine.lend Machine.step with
  | (outcome, machine) => ({ s with machine }.record s.machine.processor.pc outcome).collect

/-- Performs one step, unless a program error or the machine itself stands against it. -/
def step (s : Session) : Session :=
  match s.fatal with
  | some error => { s with status := .blocked error, running := false }
  | none =>
    if s.machine.running then s.cycle
    else { s with status := .idle s.machine.processor.cycles, running := false }

def run (s : Session) : Session :=
  { s with running := true, status := .running }

/-- Goes on with continuous execution by one step, or ends it. -/
def tick (s : Session) : Session :=
  if s.running then
    if !s.machine.running || s.fatal.isSome then
      { s with running := false, status := .halted s.machine.processor.cycles }
    else if s.breakpoints.contains s.machine.processor.pc then
      { s with running := false, status := .atBreakpoint s.machine.processor.pc }
    else s.step
  else s

/-! ## The user -/

def toggleBreakpoint (s : Session) : Session :=
  let pc := s.machine.processor.pc
  if s.breakpoints.contains pc then
    { s with breakpoints := s.breakpoints.erase pc, status := .breakpointRemoved pc }
  else { s with breakpoints := s.breakpoints.insert pc, status := .breakpointSet pc }

def scrollDown (s : Session) : Session :=
  if s.scroll + 1 < s.machine.memory.size then { s with scroll := s.scroll + 1 } else s

def scrollUp (s : Session) : Session :=
  { s with scroll := s.scroll - 1 }

def pushInput (s : Session) (bytes : List UInt8) : Session :=
  { s with machine := s.machine.pushInput bytes }

/-! ## The disassembly window -/

def row? (s : Session) (address : Word) : Option WindowRow :=
  match s.machine.memory.read address with
  | .error _ => none
  | .ok word =>
    some { address, text := disassemble word, current := address == s.machine.processor.pc }

/-- The disassembly of the cells around the program counter. The window begins half its rows before the
program counter, or at address zero. A row is left out if its address would be too large for a word, or if
there is no cell. -/
def window (s : Session) (rows : Nat) : List WindowRow :=
  let start := s.machine.processor.pc.toNat - rows / 2
  (List.range rows).filterMap fun i => (Word.ofNat? (start + i)).bind s.row?

end Session

end RegisterMachine.Debugger

import RegisterMachine.Image.Text
import RegisterMachine.Machine.Run
import RegisterMachine.Machine.Snapshot
import RegisterMachine.Machine.Workstation
import RegisterMachine.Text.Utf8

/-! # The playground

A workstation with a fixed amount of memory behind an interface of texts and numbers, for use from an
interactive page. The program that was loaded last is kept and comes back at every reset.

A call that fails to configure or to load changes nothing.
-/

namespace RegisterMachine

/-! ## Errors -/

inductive PlaygroundError where
  | roles (error : RoleError)
  | image (error : ImageError)
  | tooLarge (size available : Nat)
  | halted
  | fault (fault : Fault)
  | program (error : ProgramError)
deriving DecidableEq, Repr

def PlaygroundError.message : PlaygroundError → String
  | .roles error => error.message
  | .image error => error.message
  | .tooLarge size available =>
    "program of " ++ Text.decimal size ++ " words does not fit in " ++ Text.decimal available ++
      " words of memory"
  | .halted => "CPU is halted"
  | .fault cause => cause.message
  | .program error => error.message

def Playground.memorySize : Word := 4096

/-! ## Programs -/

structure Playground where
  /-- The workstation. Memory and console are lent to it for the duration of a call. -/
  machine : Workstation := (Workstation.make .standard Playground.memorySize).detach
  /-- The program, for the next reset. -/
  program : List Word := []
deriving DecidableEq, Repr

namespace Playground

/-- Goes back to the beginning of the program. Without a program the machine does not run. -/
def reset (p : Playground) : Playground :=
  { p with machine := p.machine.restart p.program 0 (!p.program.isEmpty) }

def configure (p : Playground) (pc sp : Nat) : Except PlaygroundError Unit × Playground :=
  match Roles.ofIndices pc sp with
  | .error e => (.error (.roles e), p)
  | .ok roles => (.ok (), { p with machine := { p.machine with processor := { roles } } }.reset)

def loadImage (p : Playground) (text : String) : Except PlaygroundError Nat × Playground :=
  match Image.parse text with
  | .error e => (.error (.image e), p)
  | .ok image =>
    if image.size ≤ p.machine.memory.size then
      (.ok image.size, { p with program := image.words }.reset)
    else (.error (.tooLarge image.size p.machine.memory.size), p)

/-! ## Execution -/

/-- What a cycle means to the caller: the assembly text of a completed instruction. -/
def answer : Outcome → Except PlaygroundError String
  | .idle => .error .halted
  | .executed instruction => .ok (disassemble instruction.toWord)
  | .faulted fault => .error (.fault fault)
  | .fatal error => .error (.program error)

def step (p : Playground) : Except PlaygroundError String × Playground :=
  match p with
  | ⟨machine, program⟩ =>
    match machine.lend Machine.step with
    | (outcome, machine) => (answer outcome, ⟨machine, program⟩)

/-- Runs for a number of cycles and answers how many instructions were completed since the reset. -/
def run (p : Playground) (budget : Nat) : Except PlaygroundError Nat × Playground :=
  match p with
  | ⟨machine, program⟩ =>
    match machine.lend (Machine.runFor budget) with
    | (.error e, machine) => (.error (.program e), ⟨machine, program⟩)
    | (.ok _, machine) => (.ok machine.processor.cycles, ⟨machine, program⟩)

/-! ## State -/

/-- The value of a register, or zero where there is none. -/
def register (p : Playground) (index : Nat) : Word :=
  (p.machine.processor.registers.get? index).getD 0

/-- The word at an address, or zero outside memory. -/
def memoryAt (p : Playground) (address : Word) : Word :=
  match p.machine.memory.read address with
  | .ok word => word
  | .error _ => 0

def stateDocument (p : Playground) : String :=
  p.machine.processor.snapshot.toJson.compact

def pushInput (p : Playground) (text : String) : Playground :=
  { p with machine := p.machine.pushInput (Text.Utf8.encode text) }

def takeOutput (p : Playground) : String × Playground :=
  match p with
  | ⟨machine, program⟩ =>
    match machine.takeOutput with
    | (bytes, machine) => (Text.Utf8.decodeLossy bytes, ⟨machine, program⟩)

end Playground

end RegisterMachine

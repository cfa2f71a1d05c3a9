import RegisterMachine.Instruction.Disassembly
import RegisterMachine.Machine.Step

/-! # Runs

Repeated cycles, in four forms: with a budget of cycles (`runFor`), until the machine stops
(`runUntilStopped`), the same with a line of trace for each instruction (`runTraced`), and with a full
observation of each cycle (`observe`).

A run without a budget need not end. It takes an amount of fuel and answers `none` when that is used
up; more fuel never changes an answer.
-/

namespace RegisterMachine

/-! ## What is seen of a cycle -/

structure TraceLine where
  pc : Word
  instruction : Instruction
  /-- The flags after it. -/
  flags : Flags
deriving DecidableEq, Repr

def TraceLine.render (line : TraceLine) : String :=
  Text.listingAddress line.pc.toNat ++ ": " ++
    Text.padRight 24 (disassemble line.instruction.toWord) ++ " flags=" ++ line.flags.render

/-- Everything about one cycle that a host can see afterwards. -/
structure Observation where
  /-- The program counter before the cycle. -/
  pc : Word
  outcome : Outcome
  /-- The registers after the cycle. -/
  registers : Registers
deriving DecidableEq, Repr

namespace Machine

variable {capacity : Nat} {μ δ : Type} [MemoryBus μ] [DeviceBus δ] [StringsEnd μ δ]

/-! ## With a budget -/

/-- Performs cycles while the machine runs, at most as many as the budget allows, and stops early at a
program error. -/
def cyclesFor : Nat → Machine capacity μ δ → Option ProgramError × Machine capacity μ δ
  | 0, m => (none, m)
  | budget + 1, m =>
    if m.running then
      match m.step with
      | (.fatal error, m) => (some error, m)
      | (_, m) => cyclesFor budget m
    else (none, m)

/-- The answer of a run: the number of instructions completed since `start`, or the program error. -/
def tally (start : Nat) (ending : Option ProgramError) (m : Machine capacity μ δ) :
    Except ProgramError Nat :=
  match ending with
  | some error => .error error
  | none => .ok (m.processor.cycles - start)

/-- Runs for at most `budget` cycles and answers how many instructions were completed. -/
def runFor (budget : Nat) (m : Machine capacity μ δ) :
    Except ProgramError Nat × Machine capacity μ δ :=
  let start := m.processor.cycles
  match cyclesFor budget m with
  | (ending, m) => (tally start ending m, m)

/-! ## Until the machine stops -/

def cyclesUntilStopped :
    Nat → Machine capacity μ δ → Option (Option ProgramError × Machine capacity μ δ)
  | 0, m => if m.running then none else some (none, m)
  | fuel + 1, m =>
    if m.running then
      match m.step with
      | (.fatal error, m) => some (some error, m)
      | (_, m) => cyclesUntilStopped fuel m
    else some (none, m)

def runUntilStopped (fuel : Nat) (m : Machine capacity μ δ) :
    Option (Except ProgramError Nat × Machine capacity μ δ) :=
  let start := m.processor.cycles
  (cyclesUntilStopped fuel m).map fun (ending, m) => (tally start ending m, m)

/-- Fuel beyond what any machine can burn. -/
def ampleFuel : Nat := 0x4000000000000000

/-! ## With a trace -/

structure Traced (capacity : Nat) (μ δ : Type) where
  ending : Option ProgramError
  lines : Array TraceLine
  machine : Machine capacity μ δ

/-- Performs cycles and records each completed instruction, until the machine stops, or faults, or
meets a program error, or has completed `limit` instructions more than `start`. -/
def tracedCycles (start : Nat) (limit : Option Nat) :
    Nat → Array TraceLine → Machine capacity μ δ → Option (Traced capacity μ δ)
  | fuel, lines, m =>
    if m.running && limit.all (m.processor.cycles - start < ·) then
      match fuel with
      | 0 => none
      | fuel + 1 =>
        let pc := m.processor.pc
        match m.step with
        | (.executed instruction, m) =>
          tracedCycles start limit fuel
            (lines.push { pc, instruction, flags := m.processor.registers.flags }) m
        | (.fatal error, m) => some { ending := some error, lines, machine := m }
        | (_, m) => some { ending := none, lines, machine := m }
    else some { ending := none, lines, machine := m }

/-- Runs with a trace, for at most `limit` completed instructions if there is a limit. -/
def runTraced (fuel : Nat) (limit : Option Nat) (m : Machine capacity μ δ) :
    Option (Except ProgramError Nat × Array TraceLine × Machine capacity μ δ) :=
  let start := m.processor.cycles
  (tracedCycles start limit fuel #[] m).map fun t =>
    (tally start t.ending t.machine, t.lines, t.machine)

/-! ## Observed -/

/-- Performs at most `count` cycles and observes each. The last one observed may be one that did not
complete an instruction. -/
def observe : Nat → Machine capacity μ δ → List Observation × Machine capacity μ δ
  | 0, m => ([], m)
  | count + 1, m =>
    let pc := m.processor.pc
    match m.step with
    | (.executed instruction, m) =>
      let seen := { pc, outcome := .executed instruction, registers := m.processor.registers }
      match observe count m with
      | (rest, m) => (seen :: rest, m)
    | (outcome, m) => ([{ pc, outcome, registers := m.processor.registers }], m)

end Machine

end RegisterMachine

import RegisterMachine.CommandLine.Report
import RegisterMachine.Machine.Run
import RegisterMachine.Machine.Snapshot
import RegisterMachine.Machine.Workstation

/-! # Executions

A run of a workstation on behalf of a command, and what the command says about it: a line for each
completed instruction if wanted, a message when the run goes wrong, a verdict, and the final state of
the processor as a table or as JSON.
-/

namespace RegisterMachine.CommandLine

open Text

structure Execution where
  /-- The number of completed instructions, or the program error that ended the run. -/
  result : Except ProgramError Nat
  /-- The completed instructions, if they were recorded. -/
  trace : List TraceLine
  machine : Workstation

namespace Execution

/-- Runs a workstation, up to a limit if there is one, with or without a record of the instructions. -/
def run (fuel : Nat) (traced : Bool) (limit : Option Word) (machine : Workstation) :
    Option Execution :=
  match traced, limit with
  | true, limit =>
    (machine.runTraced fuel (limit.map UInt64.toNat)).map fun (result, lines, machine) =>
      { result, trace := lines.toList, machine }
  | false, some limit =>
    match machine.runFor limit.toNat with
    | (result, machine) => some { result, trace := [], machine }
  | false, none =>
    (machine.runUntilStopped fuel).map fun (result, machine) => { result, trace := [], machine }

/-! ## What is said -/

/-- The messages of a run that went wrong. -/
def alarms (e : Execution) : List Emission :=
  match e.result, e.machine.processor.fault with
  | .error error, _ => [.log .error ("fatal: " ++ error.message)]
  | .ok _, some fault =>
    [.log .error ("cpu fault at pc=" ++ hex e.machine.processor.pc.toNat ++ ": " ++ fault.message)]
  | .ok _, none => []

def verdict (e : Execution) : Emission :=
  match e.result with
  | .error error => .log .error ("Fatal: " ++ error.message)
  | .ok cycles =>
    if e.machine.processor.fault.isSome then
      .log .info ("Stopped by fault after " ++ decimal cycles ++ " cycles")
    else if e.machine.running then
      .log .warn ("Reached cycle limit (" ++ decimal cycles ++ "). Use --max-cycles to increase.")
    else .log .info ("Halted after " ++ decimal cycles ++ " cycles")

def exitCode (e : Execution) : UInt32 :=
  match e.result with
  | .error _ => 1
  | .ok _ => if e.machine.processor.fault.isSome then 1 else 0

/-! ## The final state -/

def registerCell (registers : Registers) (index : RegisterIndex) : String :=
  "r" ++ padRight 2 (decimal index.val) ++ " = " ++ hexWord (registers.get index)

def table (e : Execution) : String :=
  let p := e.machine.processor
  let row (indices : List RegisterIndex) :=
    "  ".intercalate (indices.map (registerCell p.registers)) ++ "\n"
  "\n━━━ Result ━━━\n" ++
    "Cycles: " ++ decimal p.cycles ++ "\n" ++
    "Flags:  " ++ p.registers.flags.render ++ "\n" ++
    (match p.fault with
      | some fault => "Fault:  " ++ fault.message ++ "\n"
      | none => "") ++
    String.join (RegisterIndex.rows.map row)

def stateDocument (e : Execution) : String :=
  e.machine.processor.snapshot.toJson.pretty ++ "\n"

/-! ## Everything -/

def emissions (e : Execution) (dumpState : Bool) : List Emission :=
  e.trace.map (fun line => .notice (line.render ++ "\n")) ++
    [.output e.machine.devices.output.toList] ++ e.alarms ++ [e.verdict] ++
    [if dumpState then .outputText e.stateDocument else .notice e.table]

end Execution

end RegisterMachine.CommandLine

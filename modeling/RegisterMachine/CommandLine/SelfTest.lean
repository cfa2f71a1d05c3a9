import RegisterMachine.CommandLine.Execution

/-! # The self-test

Small programs with known effects, run on a fresh workstation each. A check passes if the effect is
there.
-/

namespace RegisterMachine.CommandLine.SelfTest

open Text

/-! ## Checks -/

structure Check where
  name : String
  passed : Bool
  emissions : List Emission := []

def execute (program : List Word) : Execution :=
  match ((Workstation.make .standard 64).restart program 0 true).runFor 1000 with
  | (result, machine) => { result, trace := [], machine }

def check (name : String) (program : List Word) (expected : Execution → Bool) : Check :=
  let e := execute program
  { name, passed := expected e, emissions := e.alarms }

def holds (e : Execution) (index : Nat) (value : Word) : Bool :=
  e.machine.processor.registers.get? index == some value

/-! ## The programs -/

def roundTrip : Check where
  name := "Instruction word round trip"
  passed :=
    let word := encode .beq 0x0102 0x0304 0x0506
    let instruction := Instruction.ofWord word
    instruction.opcode? == some .beq && instruction.slots == [0x0102, 0x0304, 0x0506] &&
      instruction.toWord == word

def addition : Check :=
  check "Movi/Movi/Add/Halt"
    [encode .movi 2 5 0, encode .movi 5 7 0, encode .add 2 5 0, encode .halt 0 0 0]
    fun e => e.result.isOk && holds e 2 12 && holds e 5 7 && !e.machine.running

/-- A program that compares three with a number and branches to address 5 if they are equal. -/
def comparison (number : UInt16) : List Word :=
  [encode .movi 2 3 0, encode .movi 5 number 0, encode .beq 2 5 5, encode .halt 0 0 0,
   encode .halt 0 0 0, encode .halt 0 0 0]

def branchTaken : Check :=
  check "Branch taken" (comparison 3) fun e => e.machine.processor.pc == 5

def branchNotTaken : Check :=
  check "Branch not taken" (comparison 4) fun e => e.machine.processor.pc == 3

def loop : Check :=
  check "Loop sum 0..10"
    [encode .movi 2 0 0, encode .movi 5 0 0, encode .movi 6 10 0, encode .add 5 2 0,
     encode .addi 2 1 0, encode .blt 2 6 3, encode .halt 0 0 0]
    fun e => holds e 5 45 && holds e 2 10

def characterWord (c : Char) : Word :=
  c.toNat.toUInt64

/-- A string is written up to the zero behind it. -/
def writing : Check :=
  check "Syscall write stops at terminator"
    [encode .movi 3 1 0, encode .movi 4 4 0, encode .syscall 0 0 0, encode .halt 0 0 0,
     characterWord 'h', characterWord 'i', 0, characterWord '!']
    fun e => e.machine.devices.output.toList == Utf8.encode "hi"

/-- A load outside memory stops the machine and leaves the registers alone. -/
def containment : Check :=
  check "Out-of-bounds load stops the CPU"
    [encode .movi 2 9 0, encode .load 5 1000 0, encode .halt 0 0 0]
    fun e =>
      e.result.isOk && e.machine.processor.fault.isSome && !e.machine.running && holds e 2 9

/-- An unknown operation is a program error, and nothing moves. -/
def unknownOperation : Check :=
  check "Unknown opcode is fatal" [0xffff, encode .halt 0 0 0] fun e =>
    match e.result with
    | .error (.unknownOpcode _ _) => e.machine.processor.pc == 0
    | _ => false

/-! ## Reports -/

def checks : List Check :=
  [roundTrip, addition, branchTaken, branchNotTaken, loop, writing, containment, unknownOperation]

def Check.report (c : Check) : List Emission :=
  c.emissions ++ [.outputText (c.name ++ (if c.passed then "... ✓\n" else "... ✗\n"))]

/-- The report of a self-test made of the given checks. It fails if one of them does. -/
def report (checks : List Check) : Report :=
  let passed := (checks.filter (·.passed)).length
  let failed := checks.length - passed
  let results := "Results: " ++ decimal passed ++ " passed, " ++ decimal failed ++ " failed\n"
  { emissions :=
      .outputText "━━━ regvm Self-Test ━━━\n\n" :: checks.flatMap Check.report ++
        [.outputText ("\n━━━━━━━━━━━━━━━━━━━━━━━━━━━━━━\n" ++ results ++
          if failed = 0 then "✓ All tests passed!\n" else "")]
    exitCode := if failed = 0 then 0 else 1 }

end RegisterMachine.CommandLine.SelfTest

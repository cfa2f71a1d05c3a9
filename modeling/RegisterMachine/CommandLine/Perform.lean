import RegisterMachine.CommandLine.Arguments
import RegisterMachine.CommandLine.SelfTest
import RegisterMachine.Debugger.Session
import RegisterMachine.Image.File

/-! # Performing a task

Every request is answered by a report, given a way to read files and the bytes of the standard input.
A run without a limit need not end; `perform` takes fuel for it and answers `none` when that is used up.

The debugger needs a terminal, which a command that only reads and reports does not have. It checks
everything else first.
-/

namespace RegisterMachine.CommandLine

open Text

/-! ## Texts -/

abbrev FileReader : Type := String → Except FileError (List UInt8)

def versionText : String := "regvm 0.1.0\n"

def introduction : String :=
  versionText ++ "A register-based bytecode interpreter\n\nUse --help for available commands\n"

def helpText : String :=
  "A register-based bytecode interpreter\n\n" ++
    "Usage: regvm [OPTIONS] [COMMAND]\n\n" ++
    "Commands:\n" ++
    "  run     Run a program until it halts\n" ++
    "  debug   Interactive debugger\n" ++
    "  disasm  Disassemble an image to readable text\n" ++
    "  test    Run the built-in self-test\n\n" ++
    "Options:\n" ++
    "  -q, --quiet       Only log errors\n" ++
    "      --timestamps  Prefix log lines with the time of day\n" ++
    "  -h, --help        Print help\n" ++
    "  -V, --version     Print version\n"

def misuseText : String :=
  "error: the arguments are not understood\n\nFor more information, try '--help'.\n"

/-! ## Preparations -/

def readConfiguration (read : FileReader) : Option String → Stage Configuration
  | none => pure {}
  | some path =>
    match Configuration.load read path with
    | .error e => .fail ("Failed to load configuration " ++ path ++ ": " ++ e.message)
    | .ok c => do
      Stage.say [.log .info ("Loaded configuration from " ++ path)]
      return c

/-- The configuration of the machine: what the file says, as far as no option replaces it. -/
def resolveConfiguration (read : FileReader) (options : MachineOptions) : Stage Configuration := do
  let c := options.override (← readConfiguration read options.configuration)
  match c.validate with
  | .error e => .fail ("Invalid configuration: " ++ e.message)
  | .ok () => return c

/-- The program in an image file, which must not be empty. -/
def openImage (read : FileReader) (path : String) : Stage (List Word) :=
  match Image.load read path with
  | .error e => .fail ("Failed to load " ++ path ++ ": " ++ e.message)
  | .ok image =>
    if image.size = 0 then .fail ("No instructions in " ++ path)
    else do
      Stage.say [.log .info ("Loaded " ++ decimal image.size ++ " words from " ++ path)]
      return image.words

def boot (c : Configuration) (program : List Word) (input : List UInt8) : Stage Workstation :=
  match (Memory.zeroed c.memorySize).loadProgram c.loadAddress program with
  | (.error e, _) => .fail ("Failed to load program: " ++ e.message)
  | (.ok (), memory) =>
    match c.roles.check with
    | .error e => .fail ("Invalid CPU configuration: " ++ e.message)
    | .ok roles =>
      pure
        { processor := (Processor.setPc { roles } c.loadAddress).setRunning true
          memory
          devices := { input, atEnd := "end of input" } }

/-- Everything before a run: the machine, and the limit on its cycles. -/
def prepareRun (read : FileReader) (input : List UInt8) (image : String) (machine : MachineOptions)
    (options : RunOptions) : Stage (Workstation × Option Word) := do
  let c ← resolveConfiguration read machine
  let program ← openImage read image
  let workstation ← boot c program input
  Stage.say
    [.log .info ("Running " ++ image ++ " from address " ++ decimal c.loadAddress.toNat)]
  return (workstation, options.maxCycles.or c.maxCycles)

/-! ## Tasks -/

def runImage (fuel : Nat) (read : FileReader) (input : List UInt8) (image : String)
    (machine : MachineOptions) (options : RunOptions) : Option Report :=
  match prepareRun read input image machine options with
  | ⟨emissions, none⟩ => some { emissions, exitCode := 1 }
  | ⟨emissions, some (workstation, limit)⟩ =>
    (Execution.run fuel options.trace limit workstation).map fun e =>
      { emissions := emissions ++ e.emissions options.dumpState, exitCode := e.exitCode }

/-- Begins a debugging session, up to the point where it needs a terminal. -/
def debugImage (read : FileReader) (image : String) (machine : MachineOptions) : Stage UInt32 := do
  let c ← resolveConfiguration read machine
  let program ← openImage read image
  Stage.say [.log .info "Launching debugger..."]
  match Debugger.Session.start program c with
  | .error e => .fail ("Debugger error: " ++ e.message)
  | .ok _ => .fail "Debugger error: No such device or address (os error 6)"

def disassembleImage (read : FileReader) (image : String) : Stage UInt32 := do
  let program ← openImage read image
  Stage.say [.outputText (listing program ++ "\n")]
  return 0

def Task.perform (fuel : Nat) (read : FileReader) (input : List UInt8) : Task → Option Report
  | .introduce => some { emissions := [.outputText introduction], exitCode := 0 }
  | .run image machine options => runImage fuel read input image machine options
  | .debug image machine => some (debugImage read image machine).report
  | .disassemble image => some (disassembleImage read image).report
  | .selfTest => some (SelfTest.report SelfTest.checks)

namespace Request

/-! ## Requests -/

def respond (fuel : Nat) (read : FileReader) (input : List UInt8) : Request → Option Report
  | .version => some { emissions := [.outputText versionText], exitCode := 0 }
  | .help => some { emissions := [.outputText helpText], exitCode := 0 }
  | .misused => some { emissions := [.notice misuseText], exitCode := 2 }
  | .perform invocation => invocation.task.perform fuel read input

def logging (coloured : Bool) : Request → Logging
  | .perform invocation =>
    { filter := { threshold := if invocation.quiet then .error else .info }
      format := { timestamps := invocation.timestamps, coloured } }
  | _ => {}

def paths : Request → List String
  | .perform { task := .run image machine _, .. } => machine.configuration.toList ++ [image]
  | .perform { task := .debug image machine, .. } => machine.configuration.toList ++ [image]
  | .perform { task := .disassemble image, .. } => [image]
  | _ => []

def readsInput : Request → Bool
  | .perform { task := .run _ _ _, .. } => true
  | _ => false

end Request

end RegisterMachine.CommandLine

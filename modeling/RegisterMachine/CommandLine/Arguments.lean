import RegisterMachine.CommandLine.Task
import RegisterMachine.Text.Integer

/-! # Arguments

The arguments of the command are options and operands, read from left to right. An option has a long
name behind two dashes or a letter behind one; letters can be joined. The value of an option is the next
argument, or it is attached: behind an equals sign, or directly behind the letter. A value that is an
argument of its own does not begin with a dash, except for a single dash. Behind `--` everything is an
operand.

Options stand before the subcommand or behind it. Before it there are only those that go with every
subcommand. Each option is given at most once before the subcommand and at most once behind it.
-/

namespace RegisterMachine.CommandLine

/-! ## Subcommands -/

inductive Subcommand where
  | run
  | debug
  | disassemble
  | selfTest
deriving DecidableEq, Repr

def Subcommand.ofName? (name : String) : Option Subcommand :=
  [("run", .run), ("debug", .debug), ("disasm", .disassemble), ("test", .selfTest)].lookup name

/-- The number of operands behind a subcommand: the self-test has none, the others take an image. -/
def Subcommand.operands : Subcommand → Nat
  | .selfTest => 0
  | _ => 1

/-! ## Options -/

inductive Flag where
  | quiet
  | timestamps
  | trace
  | dumpState
deriving DecidableEq, Repr

inductive Quantity where
  | memorySize
  | pcRegister
  | spRegister
  | loadAddress
  | maxCycles
deriving DecidableEq, Repr

inductive Setting where
  | configuration
  | quantity (quantity : Quantity)
deriving DecidableEq, Repr

inductive Switch where
  | flag (flag : Flag)
  | setting (setting : Setting)
  | version
  | help
deriving DecidableEq, Repr

namespace Switch

def allowed (place : Option Subcommand) : Switch → Bool
  | .flag .quiet | .flag .timestamps | .help => true
  | .version => place == none
  | .flag .trace | .flag .dumpState | .setting (.quantity .maxCycles) => place == some .run
  | .setting _ => place == some .run || place == some .debug

def longNames : List (String × Switch) :=
  [("quiet", .flag .quiet), ("timestamps", .flag .timestamps), ("trace", .flag .trace),
   ("dump-state", .flag .dumpState), ("config", .setting .configuration),
   ("memory-size", .setting (.quantity .memorySize)),
   ("pc-register", .setting (.quantity .pcRegister)),
   ("sp-register", .setting (.quantity .spRegister)),
   ("load-address", .setting (.quantity .loadAddress)),
   ("max-cycles", .setting (.quantity .maxCycles)), ("version", .version), ("help", .help)]

def letters : List (Char × Switch) :=
  [('q', .flag .quiet), ('t', .flag .trace), ('c', .setting .configuration),
   ('m', .setting (.quantity .maxCycles)), ('V', .version), ('h', .help)]

def ofLongName? (place : Option Subcommand) (name : String) : Option Switch :=
  (longNames.lookup name).filter (allowed place)

def ofLetter? (place : Option Subcommand) (letter : Char) : Option Switch :=
  (letters.lookup letter).filter (allowed place)

end Switch

/-! ## Single arguments -/

/-- Why reading ends before the last argument. -/
inductive Interruption where
  | version
  | help
  | misuse
deriving DecidableEq, Repr

inductive ArgumentForm where
  /-- The mark behind which there are only operands. -/
  | divider
  | long (name : String) (attached : Option String)
  | letters (letters : List Char)
  | plain
deriving DecidableEq, Repr

def ArgumentForm.of (argument : String) : ArgumentForm :=
  match argument.toList with
  | ['-', '-'] => .divider
  | '-' :: '-' :: body =>
    let name := String.ofList (body.takeWhile (· != '='))
    match body.dropWhile (· != '=') with
    | [] => .long name none
    | _ :: value => .long name (some (String.ofList value))
  | '-' :: c :: rest => .letters (c :: rest)
  | _ => .plain

/-! ## Readings -/

/-- What has been read so far, before a subcommand or behind it. -/
structure Reading where
  flags : List Flag := []
  configuration : Option String := none
  quantities : List (Quantity × Word) := []
  operands : List String := []
  pending : Option Setting := none
  /-- Whether only operands follow. -/
  divided : Bool := false
deriving DecidableEq, Repr

namespace Reading

def addFlag (r : Reading) (flag : Flag) : Except Interruption Reading :=
  if r.flags.contains flag then .error .misuse else .ok { r with flags := flag :: r.flags }

/-- Takes the value of an option, which must be new, and if it is a number must be written as one. -/
def addSetting (r : Reading) (setting : Setting) (value : String) : Except Interruption Reading :=
  match setting with
  | .configuration =>
    if r.configuration.isSome then .error .misuse else .ok { r with configuration := some value }
  | .quantity quantity =>
    match r.quantities.lookup quantity, Text.readWord 10 value.toList with
    | none, .ok number => .ok { r with quantities := (quantity, number) :: r.quantities }
    | _, _ => .error .misuse

def addLong (r : Reading) (place : Option Subcommand) (name : String) (attached : Option String) :
    Except Interruption Reading :=
  match Switch.ofLongName? place name, attached with
  | some (.flag flag), none => r.addFlag flag
  | some (.setting setting), some value => r.addSetting setting value
  | some (.setting setting), none => .ok { r with pending := some setting }
  | some .version, none => .error .version
  | some .help, none => .error .help
  | _, _ => .error .misuse

/-- Takes joined letters. What follows the letter of an option with a value is that value. -/
def addLetters (place : Option Subcommand) : Reading → List Char → Except Interruption Reading
  | r, [] => .ok r
  | r, letter :: rest =>
    match Switch.ofLetter? place letter with
    | some (.flag flag) =>
      match r.addFlag flag with
      | .ok r => addLetters place r rest
      | .error e => .error e
    | some (.setting setting) =>
      match rest with
      | [] => .ok { r with pending := some setting }
      | '=' :: value => r.addSetting setting (String.ofList value)
      | value => r.addSetting setting (String.ofList value)
    | some .version => .error .version
    | some .help => .error .help
    | none => .error .misuse

def addOperand (r : Reading) (place : Option Subcommand) (operand : String) :
    Except Interruption Reading :=
  if r.operands.length < (place.map Subcommand.operands).getD 0 then
    .ok { r with operands := r.operands ++ [operand] }
  else .error .misuse

/-- Takes an argument. While an option waits for its value, only a plain argument will do. -/
def add (place : Option Subcommand) (r : Reading) (argument : String) :
    Except Interruption Reading :=
  if r.divided then r.addOperand place argument
  else
    match ArgumentForm.of argument, r.pending with
    | .plain, none => r.addOperand place argument
    | .plain, some setting => { r with pending := none }.addSetting setting argument
    | _, some _ => .error .misuse
    | .divider, none => .ok { r with divided := true }
    | .long name attached, none => r.addLong place name attached
    | .letters letters, none => addLetters place r letters

/-- Takes arguments up to the last. No option is left waiting. -/
def addAll (place : Option Subcommand) : Reading → List String → Except Interruption Reading
  | r, [] => if r.pending.isSome then .error .misuse else .ok r
  | r, argument :: rest =>
    match r.add place argument with
    | .ok r => addAll place r rest
    | .error e => .error e

def machineOptions (r : Reading) : MachineOptions where
  configuration := r.configuration
  memorySize := r.quantities.lookup .memorySize
  pcRegister := r.quantities.lookup .pcRegister
  spRegister := r.quantities.lookup .spRegister
  loadAddress := r.quantities.lookup .loadAddress

def runOptions (r : Reading) : RunOptions where
  maxCycles := r.quantities.lookup .maxCycles
  trace := r.flags.contains .trace
  dumpState := r.flags.contains .dumpState

/-- The task of a subcommand with what was read behind it. No operand may be missing. -/
def task (r : Reading) (subcommand : Subcommand) : Except Interruption Task :=
  match subcommand, r.operands with
  | .run, [image] => .ok (.run image r.machineOptions r.runOptions)
  | .debug, [image] => .ok (.debug image r.machineOptions)
  | .disassemble, [image] => .ok (.disassemble image)
  | .selfTest, [] => .ok .selfTest
  | _, _ => .error .misuse

end Reading

/-! ## Everything -/

/-- Joins what was read before a subcommand and behind it. A flag counts wherever it stands. -/
def Invocation.of (before behind : Reading) (task : Task) : Invocation where
  quiet := before.flags.contains .quiet || behind.flags.contains .quiet
  timestamps := before.flags.contains .timestamps || behind.flags.contains .timestamps
  task := task

def readSubcommand (before : Reading) (subcommand : Subcommand) (arguments : List String) :
    Except Interruption Invocation := do
  let behind ← Reading.addAll (some subcommand) {} arguments
  let task ← behind.task subcommand
  return .of before behind task

/-- Reads what stands behind the word `help`: nothing, or one thing that there is help for. -/
def readHelp : List String → Interruption
  | [] => .help
  | [topic] => if topic = "help" || (Subcommand.ofName? topic).isSome then .help else .misuse
  | _ => .misuse

/-- Reads all arguments. The first operand names the subcommand, or asks for help. -/
def readArguments : Reading → List String → Except Interruption Invocation
  | r, [] => .ok (.of r {} .introduce)
  | r, argument :: rest =>
    if r.divided then .error .misuse
    else if ArgumentForm.of argument = .plain then
      match Subcommand.ofName? argument with
      | some subcommand => readSubcommand r subcommand rest
      | none => .error (if argument = "help" then readHelp rest else .misuse)
    else
      match r.add none argument with
      | .ok r => readArguments r rest
      | .error e => .error e

def Request.ofArguments (arguments : List String) : Request :=
  match readArguments {} arguments with
  | .ok invocation => .perform invocation
  | .error .version => .version
  | .error .help => .help
  | .error .misuse => .misused

end RegisterMachine.CommandLine

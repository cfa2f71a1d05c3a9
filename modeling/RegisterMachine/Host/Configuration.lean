import RegisterMachine.Host.File
import RegisterMachine.Json.Printer
import RegisterMachine.Memory.Basic
import RegisterMachine.Processor.Roles

/-! # Host configuration

The description of a machine to run a program on: the special registers, the size of memory, where the
program is loaded, and how many cycles it may take. It is written as a JSON document in which every
field may be missing. A configuration read from a document is checked before it is used.
-/

namespace RegisterMachine

/-! ## Descriptions -/

/-- A choice of special registers before it is checked. -/
structure ProposedRoles where
  pc : Word := 0
  sp : Word := 1
deriving DecidableEq, Repr

def ProposedRoles.check (proposed : ProposedRoles) : Except RoleError Roles :=
  Roles.ofIndices proposed.pc.toNat proposed.sp.toNat

structure Configuration where
  roles : ProposedRoles := {}
  memorySize : Word := Memory.defaultSize
  loadAddress : Word := 0
  maxCycles : Option Word := none
deriving DecidableEq, Repr

inductive ConfigurationError where
  | file (error : FileError)
  | malformed
  | roles (error : RoleError)
  | emptyMemory
deriving DecidableEq, Repr

def ConfigurationError.message : ConfigurationError → String
  | .file error => "I/O error: " ++ error.message
  | .malformed => "invalid configuration: not a configuration document"
  | .roles error => error.message
  | .emptyMemory => "memory size must be at least one word"

namespace ProposedRoles

/-! ## Documents of special registers -/

def fieldNames : List String := ["pc_register", "sp_register"]

/-- Reads a choice of special registers. Members that it does not know are skipped. -/
def ofJson? (document : Json) : Option ProposedRoles :=
  match Json.fields? false fieldNames document with
  | some [pc, sp] => do
    let pc ← Json.fieldOr? 0 Json.word? pc
    let sp ← Json.fieldOr? 1 Json.word? sp
    return { pc, sp }
  | _ => none

def toJson (proposed : ProposedRoles) : Json :=
  .ofFields
    [("pc_register", .ofNat proposed.pc.toNat), ("sp_register", .ofNat proposed.sp.toNat)]

end ProposedRoles

namespace Configuration

/-! ## Documents -/

def fieldNames : List String := ["cpu", "memory_size", "load_address", "max_cycles"]

/-- Reads a configuration, without checking it. Members that it does not know are refused. -/
def ofJson? (document : Json) : Option Configuration :=
  match Json.fields? true fieldNames document with
  | some [roles, memorySize, loadAddress, maxCycles] => do
    let roles ← Json.fieldOr? {} ProposedRoles.ofJson? roles
    let memorySize ← Json.fieldOr? Memory.defaultSize Json.word? memorySize
    let loadAddress ← Json.fieldOr? 0 Json.word? loadAddress
    let maxCycles ← Json.fieldOr? none Json.optionalWord? maxCycles
    return { roles, memorySize, loadAddress, maxCycles }
  | _ => none

def toJson (c : Configuration) : Json :=
  .ofFields
    [("cpu", c.roles.toJson), ("memory_size", .ofNat c.memorySize.toNat),
     ("load_address", .ofNat c.loadAddress.toNat),
     ("max_cycles", Json.ofOption (fun limit => .ofNat limit.toNat) c.maxCycles)]

/-- Checks a configuration: the special registers first, then the memory size. -/
def validate (c : Configuration) : Except ConfigurationError Unit :=
  match c.roles.check with
  | .error e => .error (.roles e)
  | .ok _ => if c.memorySize = 0 then .error .emptyMemory else .ok ()

/-- Reads a document, without checking what it describes. -/
def parse? (text : String) : Option Configuration :=
  (Json.parse? text).bind ofJson?

def ofText (text : String) : Except ConfigurationError Configuration :=
  match parse? text with
  | none => .error .malformed
  | some c =>
    match c.validate with
    | .error e => .error e
    | .ok () => .ok c

def toText (c : Configuration) : String :=
  c.toJson.pretty

def load (read : String → Except FileError (List UInt8)) (path : String) :
    Except ConfigurationError Configuration :=
  match read path with
  | .error e => .error (.file e)
  | .ok bytes =>
    match textOfFile bytes with
    | .error e => .error (.file e)
    | .ok text => ofText text

end Configuration

end RegisterMachine

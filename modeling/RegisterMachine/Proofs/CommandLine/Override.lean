import Mathlib.Tactic.Tauto
import RegisterMachine.CommandLine.Perform
import RegisterMachine.Proofs.Text.Utf8

/-! # Options in front of a configuration file

Each option replaces a value of the file, and the configuration that comes out is checked. But the file is
checked as well, before anything is replaced: what it says must be a usable configuration by itself
(`override_checked_twice`). So a file that only the options would make usable is refused
(`replaced_size_refused`), and among usable files a value that is replaced makes no difference.
-/

namespace RegisterMachine.CommandLine

/-- The file is a document that describes a configuration, usable or not. -/
def Describes (read : FileReader) (path : String) (f : Configuration) : Prop :=
  ∃ bytes text, read path = .ok bytes ∧ textOfFile bytes = .ok text ∧
    Configuration.parse? text = some f

section File

variable {read : FileReader} {path : String} {f : Configuration}
  (described : Describes read path f)

include described

theorem load_of_describes : Configuration.load read path = f.validate.map fun _ => f := by
  obtain ⟨bytes, text, content, decoded, parsed⟩ := described
  simp only [Configuration.load, content, decoded, Configuration.ofText, parsed]
  cases f.validate <;> rfl

variable {options : MachineOptions} (named : options.configuration = some path)

include named

/-- The file is checked first, then what the options have made of it. -/
theorem resolveConfiguration_of_describes :
    resolveConfiguration read options =
      match f.validate, (options.override f).validate with
      | .error e, _ => .fail ("Failed to load configuration " ++ path ++ ": " ++ e.message)
      | .ok (), .error e =>
        { emissions :=
            [.log .info ("Loaded configuration from " ++ path),
              .log .error ("Invalid configuration: " ++ e.message)]
          result := none }
      | .ok (), .ok () =>
        { emissions := [.log .info ("Loaded configuration from " ++ path)]
          result := some (options.override f) } := by
  have loaded := load_of_describes described
  rw [resolveConfiguration, named, readConfiguration, loaded]
  cases f.validate with
  | error e => rfl
  | ok _ =>
    show Stage.andThen ⟨_, some f⟩ _ = _
    simp only [Stage.andThen]
    cases (options.override f).validate <;> rfl

end File

/-- A configuration is accepted exactly if both the file and what the options make of it are usable, and it is
the latter. A file that is not usable is refused with the same words whatever the options, so the options alone
decide only if the file is usable or what they make of it is not. Usable files that differ in replaced values
only have the same outcome. -/
theorem override_checked_twice {read : FileReader} {path : String} {f : Configuration}
    {options : MachineOptions} (described : Describes read path f)
    (named : options.configuration = some path) :
    (∀ c, (resolveConfiguration read options).result = some c ↔
      f.validate = .ok () ∧ (options.override f).validate = .ok () ∧ c = options.override f) ∧
    (∀ e, f.validate = .error e → resolveConfiguration read options =
      .fail ("Failed to load configuration " ++ path ++ ": " ++ e.message)) ∧
    (((∃ c, (resolveConfiguration read options).result = some c) ↔
        (options.override f).validate = .ok ()) ↔
      f.validate = .ok () ∨ (options.override f).validate ≠ .ok ()) ∧
    ∀ {read' : FileReader} {f' : Configuration}, Describes read' path f' →
      f.validate = .ok () → f'.validate = .ok () → options.override f = options.override f' →
      resolveConfiguration read options = resolveConfiguration read' options := by
  have accepted : ∀ c, (resolveConfiguration read options).result = some c ↔
      f.validate = .ok () ∧ (options.override f).validate = .ok () ∧ c = options.override f := by
    intro c
    rw [resolveConfiguration_of_describes described named]
    cases f.validate with
    | error e => simp [Stage.fail]
    | ok _ => cases (options.override f).validate <;> simp [eq_comm]
  refine ⟨accepted, ?refused, ?alone, ?replaced⟩
  case refused =>
    intro e unusable
    rw [resolveConfiguration_of_describes described named, unusable]
  case alone =>
    simp only [accepted, exists_and_left, exists_eq, and_true]
    tauto
  case replaced =>
    intro read' f' described' usable usable' same
    rw [resolveConfiguration_of_describes described named,
      resolveConfiguration_of_describes described' named, usable, usable', same]

def textReader (text : String) : FileReader :=
  fun _ => .ok (Text.Utf8.encode text)

theorem describes_textReader {text : String} {f : Configuration}
    (parsed : Configuration.parse? text = some f) (path : String) :
    Describes (textReader text) path f :=
  ⟨_, text, rfl, by rw [textOfFile, Text.Utf8.decode?_encode], parsed⟩

def chosenRegisters : FileReader :=
  textReader "\x7b\"cpu\": \x7b\"pc_register\": 7, \"sp_register\": 8\x7d, \"load_address\": 2\x7d"

/-- The two registers the other way round. Either option alone would give one register both roles. -/
def exchanged : MachineOptions :=
  { configuration := some "c.json", pcRegister := some 8, spRegister := some 7 }

theorem exchanged_accepted :
    Describes chosenRegisters "c.json" { roles := { pc := 7, sp := 8 }, loadAddress := 2 } ∧
      exchanged.configuration = some "c.json" ∧
      (resolveConfiguration chosenRegisters exchanged).result =
        some { roles := { pc := 8, sp := 7 }, loadAddress := 2 } := by
  have described : Describes chosenRegisters "c.json"
      { roles := { pc := 7, sp := 8 }, loadAddress := 2 } :=
    describes_textReader (by decide +kernel) "c.json"
  exact ⟨described, rfl, ((override_checked_twice described rfl).1 _).2 ⟨rfl, rfl, rfl⟩⟩

def emptyMemory : FileReader :=
  textReader "\x7b\"memory_size\": 0\x7d"

def someMemory : MachineOptions :=
  { configuration := some "c.json", memorySize := some 64 }

/-- The file is refused for a size that the options replace. -/
theorem replaced_size_refused :
    Describes emptyMemory "c.json" { memorySize := 0 } ∧
      (someMemory.override { memorySize := 0 }).validate = .ok () ∧
      (resolveConfiguration emptyMemory someMemory).result = none := by
  have described : Describes emptyMemory "c.json" { memorySize := 0 } :=
    describes_textReader (by decide +kernel) "c.json"
  refine ⟨described, rfl, ?_⟩
  rw [resolveConfiguration_of_describes described rfl]
  rfl

end RegisterMachine.CommandLine

import RegisterMachine.CommandLine.Execution
import RegisterMachine.Proofs.Json.Record

/-! # The final state

A report shows the machine that a run has left (`Shows`). What the program has put out stands at the
beginning of the output. The state of the processor stands behind it as a JSON text, or at the end of what
is said as a table.

The table is described by its text, one register after the other, and the JSON text by the record that a
parser finds in it.
-/

namespace RegisterMachine.CommandLine

open Text

variable {capacity : Nat}

/-! ## The table -/

/-- Every register with its number and its value, in the order of the numbers, four a line. -/
def registerLines (r : Registers) : String :=
  String.join <| (List.finRange registerCount).map fun i =>
    "r" ++ toString i.val ++ (if i.val < 10 then " " else "") ++ " = " ++ hexWord (r.get i) ++
      if i.val % 4 = 3 then "\n" else "  "

def stateText (p : Processor capacity) : String :=
  "\n━━━ Result ━━━\n" ++ "Cycles: " ++ toString p.cycles ++ "\n" ++
    "Flags:  " ++ p.registers.flags.render ++ "\n" ++
    (p.fault.elim "" fun fault => "Fault:  " ++ fault.message ++ "\n") ++ registerLines p.registers

theorem registerCell_eq (r : Registers) (i : RegisterIndex) :
    Execution.registerCell r i =
      "r" ++ toString i.val ++ (if i.val < 10 then " " else "") ++ " = " ++ hexWord (r.get i) := by
  have number : ∀ i : RegisterIndex,
      padRight 2 (decimal i.val) = toString i.val ++ if i.val < 10 then " " else "" := by
    decide
  rw [Execution.registerCell, number, ← String.append_assoc]

theorem join_flatten (rows : List (List String)) :
    String.join rows.flatten = String.join (rows.map String.join) := by
  induction rows with
  | nil => rfl
  | cons row rows inductionHypothesis =>
    rw [List.flatten_cons, String.join_append, inductionHypothesis, List.map_cons, String.join_cons]

/-- The line of a row is made of its registers, the last of which ends the line. -/
theorem line_eq (r : Registers) : ∀ row ∈ RegisterIndex.rows,
    "  ".intercalate (row.map (Execution.registerCell r)) ++ "\n" =
      String.join (row.map fun i =>
        Execution.registerCell r i ++ if i.val % 4 = 3 then "\n" else "  ") := by
  -- With the four rows written out, both sides are the same sequence of cells and separators.
  simp only [RegisterIndex.rows, List.forall_mem_cons, List.map_cons, List.map_nil,
    String.intercalate_cons_cons, String.intercalate_singleton, String.join_cons, String.join_nil,
    String.append_assoc, String.append_empty]
  exact ⟨rfl, rfl, rfl, rfl, nofun⟩

theorem lines_eq (r : Registers) :
    String.join (RegisterIndex.rows.map fun row =>
      "  ".intercalate (row.map (Execution.registerCell r)) ++ "\n") = registerLines r := by
  have all : RegisterIndex.rows.flatten = List.finRange registerCount := by decide
  rw [List.map_congr_left (line_eq r), registerLines, ← all, List.map_flatten, join_flatten,
    List.map_map]
  simp only [registerCell_eq]
  rfl

theorem table_eq (e : Execution) : e.table = stateText e.machine.processor := by
  have count : toString e.machine.processor.cycles = decimal e.machine.processor.cycles := rfl
  unfold Execution.table stateText
  dsimp only
  rw [lines_eq, count]
  cases e.machine.processor.fault <;> rfl

/-! ## The record -/

def stateRecord (p : Processor capacity) : Json :=
  .ofFields
    [("registers", .array (p.registers.toList.map fun word => .ofNat word.toNat)),
     ("flags", .ofNat p.registers.flags.bits.toNat),
     ("flag_names", .array (p.registers.flags.names.map .ofText)),
     ("pc", .ofNat p.pc.toNat),
     ("sp", .ofNat p.sp.toNat),
     ("running", .bool p.running),
     ("cycles", .ofNat p.cycles),
     ("stack_depth", .ofNat p.stack.size),
     ("fault", .ofOption (fun fault => .ofText fault.message) p.fault)]

theorem plain_stateRecord (p : Processor capacity) : Json.Plain (stateRecord p) := by
  have words : Json.Plain (.array (p.registers.toList.map fun word => .ofNat word.toNat)) :=
    .array (List.forall_mem_map.2 fun _ _ => .number _)
  have names : Json.Plain (.array (p.registers.flags.names.map .ofText)) :=
    .array (List.forall_mem_map.2 fun _ _ => .string _)
  have fault : Json.Plain (.ofOption (fun fault => .ofText fault.message) p.fault) := by
    cases p.fault with
    | none => exact .null
    | some fault => exact .string _
  refine Json.plain_ofFields ?_
  simp only [List.forall_mem_cons]
  exact ⟨words, .number _, names, .number _, .number _, .bool _, .number _, .number _, fault, nofun⟩

theorem toJson_snapshot (p : Processor capacity) : p.snapshot.toJson = stateRecord p := by
  unfold Snapshot.toJson Processor.snapshot stateRecord
  cases p.fault <;> rfl

theorem parse?_stateDocument (e : Execution) :
    Json.parse? e.stateDocument = some (stateRecord e.machine.processor) := by
  have document : e.stateDocument = (stateRecord e.machine.processor).pretty ++ "\n" := by
    rw [Execution.stateDocument, toJson_snapshot]
  have newline : Json.Blanks "\n".toList := List.forall_mem_singleton.2 (.inr (.inr (.inl rfl)))
  have spelled := Json.spells_pretty (plain_stateRecord e.machine.processor)
  have padded := Json.Spells.padded Json.blanks_nil spelled newline
  rw [List.nil_append, ← String.toList_append, ← document] at padded
  exact Json.parse?_of_spells padded

/-! ## What a report shows -/

/-- The report is about this machine, with the final state as a table or as a JSON text. -/
inductive Shows (report : Report) (w : Workstation) : Bool → Prop where
  | table (output : report.outputBytes = w.devices.output.toList)
      (last : report.emissions.getLast? = some (.notice (stateText w.processor))) :
      Shows report w false
  | document {text : String}
      (output : report.outputBytes = w.devices.output.toList ++ Utf8.encode text)
      (read : Json.parse? text = some (stateRecord w.processor)) : Shows report w true

namespace Execution

variable (e : Execution)

theorem outputBytes_emissions (dumpState : Bool) :
    (e.emissions dumpState).flatMap Emission.outputBytes =
      e.machine.devices.output.toList ++ if dumpState then Utf8.encode e.stateDocument else [] := by
  have lines : (e.trace.map fun line => Emission.notice (line.render ++ "\n")).flatMap
      Emission.outputBytes = [] := by
    simp [List.flatMap_eq_nil_iff, Emission.outputBytes]
  have alarms : e.alarms.flatMap Emission.outputBytes = [] := by
    unfold alarms
    split <;> rfl
  have verdict : e.verdict.outputBytes = [] := by
    unfold verdict
    split
    · rfl
    · split_ifs <;> rfl
  simp only [emissions, List.flatMap_append, lines, alarms, List.flatMap_singleton, verdict]
  cases dumpState <;> simp [Emission.outputBytes, Emission.outputText]

/-- Behind what was said without any output, what is said about an execution shows its machine. -/
theorem shows {said : List Emission} (silent : said.flatMap Emission.outputBytes = [])
    (dumpState : Bool) (exitCode : UInt32) :
    Shows ⟨said ++ e.emissions dumpState, exitCode⟩ e.machine dumpState := by
  have output : Report.outputBytes ⟨said ++ e.emissions dumpState, exitCode⟩ =
      e.machine.devices.output.toList ++ if dumpState then Utf8.encode e.stateDocument else [] := by
    rw [Report.outputBytes, List.flatMap_append, silent, List.nil_append, outputBytes_emissions]
  cases dumpState with
  | false =>
    refine .table (by simpa using output) ?_
    rw [emissions, ← List.append_assoc, List.getLast?_concat, ← table_eq]
    rfl
  | true => exact .document output (parse?_stateDocument e)

end Execution

end RegisterMachine.CommandLine

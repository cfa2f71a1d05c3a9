import RegisterMachine.Proofs.Instruction.Operands
import RegisterMachine.Proofs.Machine.Cycle
import RegisterMachine.Proofs.Machine.Service

/-! # The outcome of a cycle

`Verdict` says how a cycle of a running machine ends, in terms of the operand table, the registers and
the contents of memory and console alone. Its constructors stand in order of precedence, and each one
denies those before it: no word at the program counter, an unknown operation, an operand that names no
register, a zero divisor, a refusal of memory or console (`BoundaryFault`), and completion.

The executor checks none of this in one place: each operation looks up its own registers, and the
addresses are checked by memory. `step_outcome_iff` says that it nevertheless comes to the same.
-/

namespace RegisterMachine.Machine

variable {capacity : Nat}

/-- The fault that an instruction with good operands meets in memory or on the console. -/
inductive BoundaryFault (m : Machine capacity Memory Console) (i : Instruction) :
    Opcode → Fault → Prop where
  | load (outside : m.memory.size ≤ i.b.toNat) :
      BoundaryFault m i .load (.memory (.outOfBounds i.b.toUInt64))
  | store (outside : m.memory.size ≤ i.b.toNat) :
      BoundaryFault m i .store (.memory (.outOfBounds i.b.toUInt64))
  | unresolved (installed : m.devicesInstalled = true)
      (notInput : m.processor.registers.get descriptorRegister ≠ 0)
      (notOutput : m.processor.registers.get descriptorRegister ≠ 1) :
      BoundaryFault m i .syscall
        (.device (.noDevice (m.processor.registers.get descriptorRegister)))
  | exhausted (installed : m.devicesInstalled = true)
      (isInput : m.processor.registers.get descriptorRegister = 0)
      (empty : m.devices.input = []) :
      BoundaryFault m i .syscall (.device (.readFailed m.devices.atEnd))
  | misplaced (installed : m.devicesInstalled = true)
      (isInput : m.processor.registers.get descriptorRegister = 0)
      (queued : m.devices.input ≠ [])
      (outside : m.memory.size ≤ (m.processor.registers.get pointerRegister).toNat) :
      BoundaryFault m i .syscall
        (.memory (.outOfBounds (m.processor.registers.get pointerRegister)))
  -- No cell from the pointer on has a zero low byte.
  | unterminated (installed : m.devicesInstalled = true)
      (isOutput : m.processor.registers.get descriptorRegister = 1)
      (endless : ¬ m.memory.Terminated (m.processor.registers.get pointerRegister).toNat) :
      BoundaryFault m i .syscall
        (.memory (.outOfBounds (m.memory.endOfWalk (m.processor.registers.get pointerRegister))))

/-- How a cycle ends, the first that applies. -/
inductive Verdict (m : Machine capacity Memory Console) : Outcome → Prop where
  | unfetched (outside : m.memory.size ≤ m.processor.pc.toNat) :
      Verdict m (.faulted (.memory (.outOfBounds m.processor.pc)))
  | unknown {word : Word} (fetched : m.memory.cells[m.processor.pc.toNat]? = some word)
      (unknown : 20 < (Instruction.ofWord word).code.toNat) :
      Verdict m (.fatal (.unknownOpcode (Instruction.ofWord word).code m.processor.pc))
  | misnamed {word : Word} {op : Opcode} {slot : UInt16}
      (fetched : m.memory.cells[m.processor.pc.toNat]? = some word)
      (known : (Instruction.ofWord word).code = op.code)
      (bad : (Instruction.ofWord word).badOperand? op = some slot) :
      Verdict m (.faulted (.register slot))
  | zeroDivisor {word : Word} {op : Opcode}
      (fetched : m.memory.cells[m.processor.pc.toNat]? = some word)
      (known : (Instruction.ofWord word).code = op.code)
      (good : (Instruction.ofWord word).badOperand? op = none)
      (zero : (Instruction.ofWord word).DividesByZero op m.processor.registers) :
      Verdict m (.fatal (.divisionByZero m.processor.pc))
  | refused {word : Word} {op : Opcode} {fault : Fault}
      (fetched : m.memory.cells[m.processor.pc.toNat]? = some word)
      (known : (Instruction.ofWord word).code = op.code)
      (good : (Instruction.ofWord word).badOperand? op = none)
      (nonzero : ¬ (Instruction.ofWord word).DividesByZero op m.processor.registers)
      (boundary : BoundaryFault m (Instruction.ofWord word) op fault) :
      Verdict m (.faulted fault)
  | executed {word : Word} {op : Opcode}
      (fetched : m.memory.cells[m.processor.pc.toNat]? = some word)
      (known : (Instruction.ofWord word).code = op.code)
      (good : (Instruction.ofWord word).badOperand? op = none)
      (nonzero : ¬ (Instruction.ofWord word).DividesByZero op m.processor.registers)
      (clear : ∀ fault, ¬ BoundaryFault m (Instruction.ofWord word) op fault) :
      Verdict m (.executed (Instruction.ofWord word))

theorem verdict_exists (m : Machine capacity Memory Console) : ∃ outcome, Verdict m outcome := by
  cases fetched : m.memory.cells[m.processor.pc.toNat]? with
  | none => exact ⟨_, .unfetched (Array.getElem?_eq_none_iff.1 fetched)⟩
  | some word =>
    cases named : (Instruction.ofWord word).opcode? with
    | none => exact ⟨_, .unknown fetched (Opcode.ofCode?_eq_none_iff.1 named)⟩
    | some op =>
      have known := Opcode.ofCode?_eq_some_iff.1 named
      cases checked : (Instruction.ofWord word).badOperand? op with
      | some slot => exact ⟨_, .misnamed fetched known checked⟩
      | none =>
        by_cases zero : (Instruction.ofWord word).DividesByZero op m.processor.registers
        · exact ⟨_, .zeroDivisor fetched known checked zero⟩
        · by_cases refused : ∃ fault, BoundaryFault m (Instruction.ofWord word) op fault
          · obtain ⟨fault, boundary⟩ := refused
            exact ⟨_, .refused fetched known checked zero boundary⟩
          · exact ⟨_, .executed fetched known checked zero (not_exists.1 refused)⟩

/-! ## Serving against the boundary -/

theorem transferred_error_iff {m served : Machine capacity Memory Console} {i : Instruction}
    {result : Except Fault Unit}
    (transfer : Transferred m (m.processor.registers.get descriptorRegister)
      (m.processor.registers.get pointerRegister) result served) (fault : Fault) :
    result = .error fault ↔ BoundaryFault m i .syscall fault := by
  constructor
  · rintro rfl
    cases transfer with
    | unresolved installed notInput notOutput => exact .unresolved installed notInput notOutput
    | exhausted installed isInput empty => exact .exhausted installed isInput empty
    | misplaced installed isInput queued outside =>
      exact .misplaced installed isInput (by simp [queued]) outside
    | unterminated installed isOutput endless => exact .unterminated installed isOutput endless
  · intro boundary
    -- The conditions exclude each other, so that only the end with the same name is left.
    cases boundary with
    | unresolved installed notInput notOutput => cases transfer <;> simp_all
    | exhausted installed isInput empty => cases transfer <;> simp_all
    | misplaced installed isInput queued outside =>
      have occupied := Nat.not_lt.2 outside
      cases transfer <;> simp_all
    | unterminated installed isOutput endless => cases transfer <;> simp_all

theorem served_error_iff {m served : Machine capacity Memory Console} {i : Instruction} {op : Opcode}
    {result : Except Fault Effect}
    (outcome : Served m (i.demand op m.processor.registers) result served) (fault : Fault) :
    result = .error fault ↔ BoundaryFault m i op fault := by
  have address : i.b.toUInt64.toNat = i.b.toNat := UInt16.toNat_toUInt64 i.b
  cases op with
  | load =>
    cases outcome with
    | loaded cell =>
      have inside : i.b.toNat < m.memory.size := by
        rw [← address]
        exact (Array.getElem?_eq_some_iff.1 cell).1
      refine ⟨nofun, ?_⟩
      rintro ⟨outside⟩
      omega
    | unloaded outside =>
      rw [address] at outside
      refine ⟨?_, ?_⟩
      · rintro ⟨rfl⟩
        exact .load outside
      · rintro ⟨_⟩
        rfl
  | store =>
    cases outcome with
    | stored inside =>
      rw [address] at inside
      refine ⟨nofun, ?_⟩
      rintro ⟨outside⟩
      omega
    | unstored outside =>
      rw [address] at outside
      refine ⟨?_, ?_⟩
      · rintro ⟨rfl⟩
        exact .store outside
      · rintro ⟨_⟩
        rfl
  | syscall =>
    cases outcome with
    | transferred transfer =>
      rw [← transferred_error_iff transfer]
      exact ⟨nofun, nofun⟩
    | untransferred transfer =>
      rw [← transferred_error_iff transfer]
      simp only [Except.error.injEq]
  | _ =>
    cases outcome
    exact ⟨nofun, nofun⟩

/-! ## One cycle -/

theorem execute_of_resolved {m : Machine capacity Memory Console} {word : Word} {op : Opcode}
    (known : (Instruction.ofWord word).code = op.code)
    (good : (Instruction.ofWord word).badOperand? op = none)
    (nonzero : ¬ (Instruction.ofWord word).DividesByZero op m.processor.registers) :
    (m.execute word).1 =
      match (m.serve ((Instruction.ofWord word).demand op m.processor.registers)).1 with
      | .error fault => .faulted fault
      | .ok _ => .executed (Instruction.ofWord word) := by
  have named : (Instruction.ofWord word).opcode? = some op := Opcode.ofCode?_eq_some_iff.2 known
  simp only [execute, Instruction.request_of_sound _ named good nonzero]
  split
  · rename_i fault served result
    simp only [result, stop]
  · rename_i effect served result
    simp only [result]

theorem step_of_verdict {m : Machine capacity Memory Console} (running : m.running = true)
    (installed : m.memoryInstalled = true) {outcome : Outcome} (verdict : Verdict m outcome) :
    m.step.1 = outcome := by
  cases verdict with
  | unfetched outside =>
    have refused : m.readFlat m.processor.pc = .error (.outOfBounds m.processor.pc) := by
      rw [readFlat, if_pos installed, Memory.read_outside outside]
    simp only [step, running, load_flat, refused, if_true]
    rfl
  | @unknown word fetched unknown =>
    have unnamed : (Instruction.ofWord word).opcode? = none := Opcode.ofCode?_eq_none_iff.2 unknown
    rw [step_flat running installed fetched]
    simp only [execute, Instruction.request_of_unknown _ _ unnamed]
  | @misnamed word op slot fetched known bad =>
    have named : (Instruction.ofWord word).opcode? = some op := Opcode.ofCode?_eq_some_iff.2 known
    rw [step_flat running installed fetched]
    simp only [execute, Instruction.request_of_misnamed _ _ named bad]
    rfl
  | @zeroDivisor word op fetched known good zero =>
    have named : (Instruction.ofWord word).opcode? = some op := Opcode.ofCode?_eq_some_iff.2 known
    rw [step_flat running installed fetched]
    simp only [execute, Instruction.request_of_zeroDivisor _ named good zero]
  | @refused word op fault fetched known good nonzero boundary =>
    have served := served_serve ((Instruction.ofWord word).demand op m.processor.registers) installed
    have failed := (served_error_iff served fault).2 boundary
    rw [step_flat running installed fetched, execute_of_resolved known good nonzero, failed]
  | @executed word op fetched known good nonzero clear =>
    have served := served_serve ((Instruction.ofWord word).demand op m.processor.registers) installed
    rw [step_flat running installed fetched, execute_of_resolved known good nonzero]
    cases result : (m.serve ((Instruction.ofWord word).demand op m.processor.registers)).1 with
    | error fault => exact absurd ((served_error_iff served fault).1 result) (clear fault)
    | ok effect => rfl

/-- A cycle of a running machine ends as the first verdict that applies says, and in no other way. -/
theorem step_outcome_iff {m : Machine capacity Memory Console} (running : m.running = true)
    (installed : m.memoryInstalled = true) (outcome : Outcome) :
    m.step.1 = outcome ↔ Verdict m outcome := by
  constructor
  · rintro rfl
    obtain ⟨outcome, verdict⟩ := verdict_exists m
    rw [step_of_verdict running installed verdict]
    exact verdict
  · exact step_of_verdict running installed

/-- A division of which neither operand names a register. -/
def misnamedDivision : Machine 4 Memory Console where
  processor := { registers := Registers.cleared.setRunning true }
  memory := ⟨#[encode .div 17 16 0], by decide⟩
  devices := {}

/-- The source is reported and not the target. -/
theorem misnamedDivision_verdict :
    misnamedDivision.running = true ∧ misnamedDivision.memoryInstalled = true ∧
      Verdict misnamedDivision (.faulted (.register 16)) := by
  have running : misnamedDivision.running = true := by decide
  exact ⟨running, rfl, (step_outcome_iff running rfl _).1 (by decide)⟩

end RegisterMachine.Machine

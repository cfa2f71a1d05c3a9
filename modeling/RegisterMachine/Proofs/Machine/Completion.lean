import RegisterMachine.Proofs.Instruction.Operands
import RegisterMachine.Proofs.Machine.Cycle
import RegisterMachine.Proofs.Machine.Service
import RegisterMachine.Proofs.Processor.Update

/-! # Completed instructions

The meaning of each operation in natural numbers: the value it computes (`Instruction.result?`), the
address it goes on at when that is not the next one (`Instruction.target?`), and the cell it writes
(`Machine.cellWrite?`). `Completed` puts them together into everything that a completed cycle does and
leaves alone, and `step_executed_completed` proves it of every cycle that completes.

The proof goes through the effect of the instruction. `assigned?_of_served` and `target?_of_served` read
result and target off the effect, and what an effect does to the processor is known from
`Processor.get_complete` and `Processor.pc_complete`.
-/

namespace RegisterMachine

/-! ## Meaning in natural numbers -/

def Registers.value (r : Registers) (slot : UInt16) : Nat :=
  (r.get (RegisterIndex.ofSlot slot)).toNat

namespace Instruction

/-- The value that the instruction computes for the register in slot 0. -/
def result? (i : Instruction) (op : Opcode) (r : Registers) (memory : Memory) : Option Nat :=
  let x := r.value i.a
  let y := r.value i.b
  let immediate := i.b.toNat
  match op with
  | .add => some ((x + y) % UInt64.size)
  | .sub => some ((x + (UInt64.size - y)) % UInt64.size)
  | .mul => some (x * y % UInt64.size)
  | .div => some (x / y)
  | .addi => some ((x + immediate) % UInt64.size)
  | .subi => some ((x + (UInt64.size - immediate)) % UInt64.size)
  | .muli => some (x * immediate % UInt64.size)
  | .divi => some (x / immediate)
  | .mov => some y
  | .movi => some immediate
  | .load => memory.cells[immediate]?.map UInt64.toNat
  | _ => none

/-- The address that the instruction goes on at, if it jumps. -/
def target? (i : Instruction) (op : Opcode) (r : Registers) : Option Nat :=
  let x := r.value i.a
  let y := r.value i.b
  match op with
  | .jmp => some i.a.toNat
  | .jmpr => some x
  | .beq => if x = y then some i.c.toNat else none
  | .bne => if x ≠ y then some i.c.toNat else none
  | .blt => if x < y then some i.c.toNat else none
  | .bgt => if x > y then some i.c.toNat else none
  | _ => none

def valueAfter (i : Instruction) (op : Opcode) (r : Registers) (memory : Memory)
    (index : RegisterIndex) : Nat :=
  match i.result? op r memory with
  | some value => if index.val = i.a.toNat then value else (r.get index).toNat
  | none => (r.get index).toNat

/-- The address of the instruction behind this one. Without a jump it is one behind what the program
counter holds after the result is written. -/
def successor (i : Instruction) (op : Opcode) (r : Registers) (memory : Memory)
    (pc : RegisterIndex) : Nat :=
  match i.target? op r with
  | some target => target
  | none =>
    if op = .halt then (r.get pc).toNat else (i.valueAfter op r memory pc + 1) % UInt64.size

end Instruction

namespace Machine

variable {capacity : Nat}

def cellWrite? (m : Machine capacity Memory Console) (i : Instruction) (op : Opcode) :
    Option (Nat × Word) :=
  let r := m.processor.registers
  match op with
  | .store => some (i.b.toNat, r.get (RegisterIndex.ofSlot i.a))
  | .syscall =>
    if m.devicesInstalled && r.get descriptorRegister == 0 then
      m.devices.input.head?.map fun byte => ((r.get pointerRegister).toNat, byte.toUInt64)
    else none
  | _ => none

def cellAfter (m : Machine capacity Memory Console) (i : Instruction) (op : Opcode) (index : Nat) :
    Option Word :=
  match m.cellWrite? i op with
  | some (address, word) => if index = address then some word else m.memory.cells[index]?
  | none => m.memory.cells[index]?

/-- The second machine is what completing an instruction of an operation makes of the first. -/
structure Completed (m : Machine capacity Memory Console) (i : Instruction) (op : Opcode)
    (m' : Machine capacity Memory Console) : Prop where
  fetched : ∃ word, m.memory.cells[m.processor.pc.toNat]? = some word ∧ i = .ofWord word
  known : i.code = op.code
  named : ∀ slot ∈ i.registerSlots op, slot.toNat < registerCount
  general : ∀ index, index ≠ m.processor.roles.pc →
    (m'.processor.registers.get index).toNat =
      i.valueAfter op m.processor.registers m.memory index
  pc : m'.processor.pc.toNat =
    i.successor op m.processor.registers m.memory m.processor.roles.pc
  running : m'.running = decide (op ≠ .halt)
  reserved : m'.processor.registers.flags.reserved = m.processor.registers.flags.reserved
  size : m'.memory.size = m.memory.size
  cells : ∀ index : Nat, m'.memory.cells[index]? = m.cellAfter i op index
  devices : op ≠ .syscall → m'.devices = m.devices
  stack : m'.processor.stack = m.processor.stack
  roles : m'.processor.roles = m.processor.roles
  fault : m'.processor.fault = m.processor.fault
  cycles : m'.processor.cycles = m.processor.cycles + 1
  memoryInstalled : m'.memoryInstalled = m.memoryInstalled
  devicesInstalled : m'.devicesInstalled = m.devicesInstalled

end Machine

/-! ## Effects

Result and target once more, now of the effect that an instruction has on the processor. -/

namespace Effect

def assigned? : Effect → Option (RegisterIndex × Nat)
  | .assign target value => some (target, value.toNat)
  | _ => none

def target? : Effect → Option Nat
  | .jump target => some target.toNat
  | _ => none

def valueAfter (effect : Effect) (r : Registers) (index : RegisterIndex) : Nat :=
  match effect.assigned? with
  | some (target, value) => if index = target then value else (r.get index).toNat
  | none => (r.get index).toNat

@[simp] theorem assigned?_jumpIf (taken : Bool) (target : Word) :
    (jumpIf taken target).assigned? = none := by
  cases taken <;> rfl

@[simp] theorem target?_jumpIf (taken : Bool) (target : Word) :
    (jumpIf taken target).target? = if taken then some target.toNat else none := by
  cases taken <;> rfl

@[simp] theorem jumpIf_ne_halt (taken : Bool) (target : Word) : jumpIf taken target ≠ .halt := by
  cases taken <;> nofun

@[simp] theorem jumpIf_ne_assign (taken : Bool) (target : Word) (register : RegisterIndex)
    (value : Word) : jumpIf taken target ≠ .assign register value := by
  cases taken <;> nofun

/-- A branch goes to the address in slot 2 exactly if its condition holds. -/
theorem target?_branch (i : Instruction) {taken : Bool} {holds : Prop} [Decidable holds]
    (agree : taken = true ↔ holds) :
    (jumpIf taken i.c.toUInt64).target? = if holds then some i.c.toNat else none := by
  rw [target?_jumpIf, UInt16.toNat_toUInt64]
  exact if_congr agree rfl rfl

end Effect

namespace Processor

variable {capacity : Nat}

theorem toNat_get_complete (p : Processor capacity) (effect : Effect) {index : RegisterIndex}
    (general : index ≠ p.roles.pc) :
    ((p.complete effect).registers.get index).toNat = effect.valueAfter p.registers index := by
  rw [get_complete p effect general]
  cases effect with
  | assign target value => exact apply_ite UInt64.toNat _ _ _
  | advance | jump _ | halt => rfl

theorem toNat_pc_complete (p : Processor capacity) (effect : Effect) :
    (p.complete effect).pc.toNat =
      match effect.target? with
      | some target => target
      | none =>
        if effect = .halt then p.pc.toNat
        else (effect.valueAfter p.registers p.roles.pc + 1) % UInt64.size := by
  rw [pc_complete]
  cases effect with
  | advance => exact UInt64.toNat_add _ _
  | assign target value =>
    -- The increment applies to the register as assigned, which may be the counter itself.
    refine (UInt64.toNat_add _ _).trans ?_
    simp only [Effect.valueAfter, Effect.assigned?, Effect.target?, reduceCtorEq, if_false, pc,
      apply_ite UInt64.toNat]
    rfl
  | jump target => rfl
  | halt => rfl

end Processor

/-! ## What is served is what is meant -/

theorem Instruction.mem_registerSlots_of_result? {i : Instruction} {op : Opcode} {r : Registers}
    {memory : Memory} {value : Nat} (computed : i.result? op r memory = some value) :
    i.a ∈ i.registerSlots op := by
  cases op with
  | nop | store | beq | bne | blt | bgt | jmp | jmpr | halt | syscall => cases computed
  | _ => exact List.mem_cons_self

namespace Machine

section Served

variable {capacity : Nat} {m served : Machine capacity Memory Console} {i : Instruction}
  {op : Opcode} {effect : Effect}

theorem assigned?_of_served
    (outcome : Served m (i.demand op m.processor.registers) (.ok effect) served) :
    effect.assigned? = (i.result? op m.processor.registers m.memory).map
      fun value => (RegisterIndex.ofSlot i.a, value) := by
  cases op with
  | load =>
    -- The only result that comes from memory; everything else is computed from registers.
    cases outcome with
    | loaded cell =>
      rw [UInt16.toNat_toUInt64] at cell
      simp [Effect.assigned?, Instruction.result?, cell]
  | sub | subi =>
    -- Words subtract by adding the complement, which stands on the other side here.
    cases outcome
    simp [Effect.assigned?, Instruction.result?, Registers.value, UInt64.toNat_sub, Nat.add_comm,
      UInt64.size]
  | beq | bne | blt | bgt =>
    cases outcome
    exact Effect.assigned?_jumpIf _ _
  | _ =>
    cases outcome
    simp [Effect.assigned?, Instruction.result?, Registers.value, UInt64.size]

theorem target?_of_served
    (outcome : Served m (i.demand op m.processor.registers) (.ok effect) served) :
    effect.target? = i.target? op m.processor.registers := by
  cases op with
  | beq =>
    cases outcome
    exact Effect.target?_branch i (beq_iff_eq.trans UInt64.toNat_inj.symm)
  | bne =>
    cases outcome
    exact Effect.target?_branch i (bne_iff_ne.trans (not_congr UInt64.toNat_inj.symm))
  | blt | bgt =>
    cases outcome
    exact Effect.target?_branch i (decide_eq_true_iff.trans UInt64.lt_iff_toNat_lt)
  | _ =>
    cases outcome
    simp [Effect.target?, Instruction.target?, Registers.value]

theorem halt_of_served
    (outcome : Served m (i.demand op m.processor.registers) (.ok effect) served) :
    effect = .halt ↔ op = .halt := by
  cases op with
  | beq | bne | blt | bgt =>
    cases outcome
    simp
  | _ =>
    cases outcome
    simp

theorem valueAfter_of_served (good : i.badOperand? op = none)
    (outcome : Served m (i.demand op m.processor.registers) (.ok effect) served)
    (index : RegisterIndex) :
    effect.valueAfter m.processor.registers index =
      i.valueAfter op m.processor.registers m.memory index := by
  rw [Effect.valueAfter, Instruction.valueAfter, assigned?_of_served outcome]
  cases computed : i.result? op m.processor.registers m.memory with
  | none => rfl
  | some value =>
    -- The operand check has passed, so that slot 0 is the number of the target and not only that
    -- number modulo the number of registers.
    have bound := Instruction.named_of_badOperand? good _
      (Instruction.mem_registerSlots_of_result? computed)
    have same : index = RegisterIndex.ofSlot i.a ↔ index.val = i.a.toNat := by
      rw [Fin.ext_iff, RegisterIndex.val_ofSlot bound]
    exact if_congr same rfl rfl

theorem size_of_served {request : Request} (outcome : Served m request (.ok effect) served) :
    served.memory.size = m.memory.size := by
  cases outcome with
  | finished | loaded _ => rfl
  | stored inside => exact Memory.size_write _ _ _
  | transferred transfer =>
    cases transfer with
    | absent _ | sent _ _ _ => rfl
    | received _ _ _ _ => exact Memory.size_write _ _ _

theorem cells_of_served
    (outcome : Served m (i.demand op m.processor.registers) (.ok effect) served) (index : Nat) :
    served.memory.cells[index]? = m.cellAfter i op index := by
  cases op with
  | store =>
    cases outcome with
    | stored inside =>
      obtain ⟨_, cells⟩ := Memory.write_inside
        (m.processor.registers.get (RegisterIndex.ofSlot i.a)) inside
      rw [UInt16.toNat_toUInt64] at cells
      exact cells index
  | syscall =>
    cases outcome with
    | transferred transfer =>
      cases transfer with
      | absent absent => simp [cellAfter, cellWrite?, absent]
      | @received byte rest installed isInput queued inside =>
        obtain ⟨_, cells⟩ := Memory.write_inside byte.toUInt64 inside
        have written : m.cellWrite? i .syscall =
            some ((m.processor.registers.get pointerRegister).toNat, byte.toUInt64) := by
          simp [cellWrite?, installed, isInput, queued]
        rw [cellAfter, written]
        exact cells index
      | sent installed isOutput terminated => simp [cellAfter, cellWrite?, isOutput]
  | _ =>
    cases outcome
    rfl

theorem devices_of_served (other : op ≠ .syscall)
    (outcome : Served m (i.demand op m.processor.registers) (.ok effect) served) :
    served.devices = m.devices := by
  cases op with
  | syscall => exact absurd rfl other
  | _ =>
    cases outcome
    rfl

end Served

/-! ## The cycle -/

variable {capacity : Nat}

/-- A completed cycle does exactly what the operation of its instruction says and nothing else. -/
theorem step_executed_completed {m m' : Machine capacity Memory Console} {i : Instruction}
    (executed : m.step = (.executed i, m')) : ∃ op, Completed m i op m' := by
  cases cycle_of_step executed with
  | @completed fetched served word demand effect running fetch request serve =>
    obtain ⟨rfl, reachable, cell⟩ := fetch_flat fetch
    obtain ⟨op, named, good, _, rfl⟩ := Instruction.request_eq_ok request
    have outcome := served_of_serve reachable serve
    -- Serving has kept the processor, and completing it is all that the cycle does to it.
    obtain ⟨processor, memoryInstalled, devicesInstalled⟩ := surrounds_of_serve serve
    have after : (served.modifyProcessor (·.complete effect)).processor =
        fetched.processor.complete effect := congrArg (·.complete effect) processor
    refine ⟨op, ?_⟩
    constructor
    case fetched => exact ⟨word, cell, rfl⟩
    case known => exact Opcode.ofCode?_eq_some_iff.1 named
    case named => exact Instruction.named_of_badOperand? good
    case general =>
      intro index general
      rw [after, Processor.toNat_get_complete _ _ general, valueAfter_of_served good outcome]
    case pc =>
      rw [after, Processor.toNat_pc_complete, target?_of_served outcome,
        valueAfter_of_served good outcome]
      simp only [halt_of_served outcome]
      rfl
    case running =>
      show (served.modifyProcessor (·.complete effect)).processor.registers.running = _
      have on : fetched.processor.registers.running = true := running
      rw [after, Processor.running_complete, on, Bool.true_and]
      exact decide_eq_decide.2 (not_congr (halt_of_served outcome))
    case reserved => rw [after, Processor.reserved_complete]
    case size =>
      have size := size_of_served outcome
      exact size
    case cells =>
      intro index
      have cells := cells_of_served outcome index
      exact cells
    case devices =>
      intro other
      have devices := devices_of_served other outcome
      exact devices
    case stack => rw [after, Processor.stack_complete]
    case roles => rw [after, Processor.roles_complete]
    case fault => rw [after, Processor.fault_complete]
    case cycles => rw [after, Processor.cycles_complete]
    case memoryInstalled => exact memoryInstalled
    case devicesInstalled => exact devicesInstalled

/-- A subtraction from the program counter itself that wraps around. -/
def counterSubtraction : Machine 4 Memory Console where
  processor :=
    { registers := (Registers.cleared.setRunning true).set pointerRegister 1
      roles := { pc := pointerRegister, sp := descriptorRegister, distinct := by decide } }
  memory := ⟨#[0, encode .subi 4 3 0], by decide⟩
  devices := {}

/-- The counter holds 1, then 1 - 3, then one more. -/
theorem counterSubtraction_completed :
    counterSubtraction.step.1 = .executed (.of .subi 4 3 0) ∧
      counterSubtraction.step.2.processor.pc.toNat = UInt64.size - 1 ∧
      ∃ op, Completed counterSubtraction (.of .subi 4 3 0) op counterSubtraction.step.2 := by
  have executed : counterSubtraction.step = (.executed (.of .subi 4 3 0), counterSubtraction.step.2) :=
    Prod.ext (by decide) rfl
  exact ⟨by decide, by decide, step_executed_completed executed⟩

end Machine

end RegisterMachine

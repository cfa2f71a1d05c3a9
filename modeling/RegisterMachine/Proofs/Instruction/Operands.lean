import RegisterMachine.Instruction.Request

/-! # Operands

`Opcode.operands` says which slots of an instruction name registers. The operations themselves check
their slots one by one, each in an order of its own. `resolve_eq` ties the two together: resolving an
instruction is checking the slots that the table calls registers, in the order of `checkedSlots`, then
checking the divisor, and then asking for `demand`, which is written without any check.
-/

namespace RegisterMachine

/-! ## Numbers of operations -/

namespace Opcode

@[simp] theorem ofCode?_code (op : Opcode) : ofCode? op.code = some op := by
  cases op <;> rfl

theorem ofCode?_eq_none_iff {code : UInt16} : ofCode? code = none ↔ 20 < code.toNat := by
  rw [ofCode?, List.getElem?_eq_none_iff]
  exact Nat.succ_le_iff

theorem ofCode?_eq_some_iff {code : UInt16} {op : Opcode} :
    ofCode? code = some op ↔ code = op.code := by
  constructor
  · intro named
    obtain ⟨bound, entry⟩ := List.getElem?_eq_some_iff.1 named
    have numbered : ∀ n : Fin all.length, (all.get n).code.toNat = n := by decide
    have number := numbered ⟨code.toNat, bound⟩
    rw [List.get_eq_getElem, entry] at number
    exact UInt16.toNat_inj.1 number.symm
  · rintro rfl
    exact ofCode?_code op

/-- The operation looks at its source register before its target register. -/
def sourceFirst : Opcode → Bool
  | .add | .sub | .mul | .div | .mov => true
  | _ => false

end Opcode

def Effect.jumpIf (taken : Bool) (target : Word) : Effect :=
  if taken then .jump target else .advance

/-! ## Checking slots -/

/-- The register that a slot names. For a slot that names none this is some register. -/
def RegisterIndex.ofSlot (slot : UInt16) : RegisterIndex :=
  ⟨slot.toNat % registerCount, Nat.mod_lt _ (by decide)⟩

theorem RegisterIndex.val_ofSlot {slot : UInt16} (bound : slot.toNat < registerCount) :
    (ofSlot slot).val = slot.toNat :=
  Nat.mod_eq_of_lt bound

def namesNoRegister (slot : UInt16) : Bool :=
  decide (registerCount ≤ slot.toNat)

/-- The given result, unless one of the slots names no register; then the first such is reported. -/
def checking (slots : List UInt16) (result : Except Trap Request) : Except Trap Request :=
  match slots.find? namesNoRegister with
  | some slot => .error (.fault (.register slot))
  | none => result

/-- Looking up one more register is checking one more slot. -/
theorem bind_operandRegister {slot : UInt16} {slots : List UInt16}
    {next : RegisterIndex → Except Trap Request} {result : Except Trap Request}
    (rest : next (RegisterIndex.ofSlot slot) = checking slots result) :
    (operandRegister slot >>= next) = checking (slot :: slots) result := by
  by_cases bound : slot.toNat < registerCount
  · have named : operandRegister slot = .ok (RegisterIndex.ofSlot slot) := by
      have index : (⟨slot.toNat, bound⟩ : RegisterIndex) = RegisterIndex.ofSlot slot :=
        Fin.ext (RegisterIndex.val_ofSlot bound).symm
      simp only [operandRegister, RegisterIndex.ofNat?, dif_pos bound, index]
    have good : namesNoRegister slot = false := decide_eq_false (Nat.not_le.2 bound)
    rw [named]
    show next (RegisterIndex.ofSlot slot) = _
    rw [rest]
    simp only [checking, List.find?_cons, good]
  · have unnamed : operandRegister slot = .error (.fault (.register slot)) := by
      simp only [operandRegister, RegisterIndex.ofNat?, dif_neg bound]
    have bad : namesNoRegister slot = true := decide_eq_true (Nat.le_of_not_lt bound)
    rw [unnamed]
    simp only [checking, List.find?_cons, bad]
    rfl

namespace Instruction

/-- The slots that the operand table calls registers, in slot order. -/
def registerSlots (i : Instruction) (op : Opcode) : List UInt16 :=
  ((i.operands op).filter (·.1 == .register)).map (·.2)

/-- The slots that the operand table calls registers, in the order in which they are checked. -/
def checkedSlots (i : Instruction) (op : Opcode) : List UInt16 :=
  if op.sourceFirst then (i.registerSlots op).reverse else i.registerSlots op

def badOperand? (i : Instruction) (op : Opcode) : Option UInt16 :=
  (i.checkedSlots op).find? namesNoRegister

def DividesByZero (i : Instruction) (op : Opcode) (r : Registers) : Prop :=
  (op = .div ∧ r.get (RegisterIndex.ofSlot i.b) = 0) ∨ (op = .divi ∧ i.b = 0)

instance (i : Instruction) (op : Opcode) (r : Registers) : Decidable (i.DividesByZero op r) :=
  inferInstanceAs (Decidable (_ ∨ _))

/-- What an instruction asks for when nothing is wrong with its operands. -/
def demand (i : Instruction) (op : Opcode) (r : Registers) : Request :=
  let target := RegisterIndex.ofSlot i.a
  let x := r.get target
  let y := r.get (RegisterIndex.ofSlot i.b)
  let immediate := i.b.toUInt64
  let destination := i.c.toUInt64
  match op with
  | .nop => .finish .advance
  | .add => .finish (.assign target (x + y))
  | .sub => .finish (.assign target (x - y))
  | .mul => .finish (.assign target (x * y))
  | .div => .finish (.assign target (x / y))
  | .addi => .finish (.assign target (x + immediate))
  | .subi => .finish (.assign target (x - immediate))
  | .muli => .finish (.assign target (x * immediate))
  | .divi => .finish (.assign target (x / immediate))
  | .mov => .finish (.assign target y)
  | .movi => .finish (.assign target immediate)
  | .load => .load target immediate
  | .store => .store immediate x
  | .beq => .finish (.jumpIf (x == y) destination)
  | .bne => .finish (.jumpIf (x != y) destination)
  | .blt => .finish (.jumpIf (x < y) destination)
  | .bgt => .finish (.jumpIf (x > y) destination)
  | .jmp => .finish (.jump i.a.toUInt64)
  | .jmpr => .finish (.jump x)
  | .halt => .finish .halt
  | .syscall => .transfer (r.get descriptorRegister) (r.get pointerRegister)

theorem named_of_badOperand? {i : Instruction} {op : Opcode} (good : i.badOperand? op = none) :
    ∀ slot ∈ i.registerSlots op, slot.toNat < registerCount := by
  intro slot member
  have checked : slot ∈ i.checkedSlots op := by
    unfold checkedSlots
    split
    · exact List.mem_reverse.2 member
    · exact member
  have names := List.find?_eq_none.1 good slot checked
  simpa [namesNoRegister] using names

/-! ## Resolving -/

theorem combine_eq (i : Instruction) (r : Registers) (f : Word → Word → Word) :
    i.combine r f = checking [i.b, i.a] (.ok (.finish (.assign (RegisterIndex.ofSlot i.a)
      (f (r.get (RegisterIndex.ofSlot i.a)) (r.get (RegisterIndex.ofSlot i.b)))))) :=
  bind_operandRegister (bind_operandRegister rfl)

theorem combineImmediate_eq (i : Instruction) (r : Registers) (f : Word → Word → Word) :
    i.combineImmediate r f = checking [i.a] (.ok (.finish (.assign (RegisterIndex.ofSlot i.a)
      (f (r.get (RegisterIndex.ofSlot i.a)) i.b.toUInt64)))) :=
  bind_operandRegister rfl

theorem branch_eq (i : Instruction) (r : Registers) (taken : Word → Word → Bool) :
    i.branch r taken = checking [i.a, i.b] (.ok (.finish (.jumpIf
      (taken (r.get (RegisterIndex.ofSlot i.a)) (r.get (RegisterIndex.ofSlot i.b)))
      i.c.toUInt64))) := by
  refine bind_operandRegister (bind_operandRegister ?_)
  cases taken (r.get (RegisterIndex.ofSlot i.a)) (r.get (RegisterIndex.ofSlot i.b)) <;> rfl

theorem divi_byZero_iff (i : Instruction) (r : Registers) :
    i.DividesByZero .divi r ↔ i.b.toUInt64 = 0 := by
  have same : i.b.toUInt64 = 0 ↔ i.b = 0 := by
    rw [← UInt64.toNat_inj, ← UInt16.toNat_inj, UInt16.toNat_toUInt64]
    rfl
  simp [DividesByZero, same]

/-- Resolving checks the register operands of the table, then the divisor. -/
theorem resolve_eq (i : Instruction) (op : Opcode) (r : Registers) (pc : Word) :
    i.resolve op r pc = checking (i.checkedSlots op)
      (if i.DividesByZero op r then .error (.fatal (.divisionByZero pc))
        else .ok (i.demand op r)) := by
  cases op with
  | nop | jmp | halt | syscall => rfl
  | add | sub | mul => exact combine_eq i r _
  | mov => exact combine_eq i r fun _ source => source
  | addi | subi | muli => exact combineImmediate_eq i r _
  | movi => exact combineImmediate_eq i r fun _ value => value
  | beq | bne => exact branch_eq i r _
  | blt => exact branch_eq i r fun x y => decide (x < y)
  | bgt => exact branch_eq i r fun x y => decide (x > y)
  | load | store | jmpr => exact bind_operandRegister rfl
  | div =>
    -- The divisor is compared with zero behind both look-ups, also behind that of the target.
    refine bind_operandRegister (bind_operandRegister ?_)
    have zero : i.DividesByZero .div r ↔ r.get (RegisterIndex.ofSlot i.b) = 0 := by
      simp [DividesByZero]
    simp only [divide, zero]
    rfl
  | divi =>
    refine bind_operandRegister ?_
    simp only [divide, divi_byZero_iff]
    rfl

section Request

variable {i : Instruction} {op : Opcode} (r : Registers) (pc : Word)

theorem request_of_unknown (unknown : i.opcode? = none) :
    i.request r pc = .error (.fatal (.unknownOpcode i.code pc)) := by
  simp only [request, unknown]

theorem request_of_misnamed {slot : UInt16} (known : i.opcode? = some op)
    (bad : i.badOperand? op = some slot) : i.request r pc = .error (.fault (.register slot)) := by
  unfold badOperand? at bad
  simp only [request, known, resolve_eq, checking, bad]

theorem request_of_zeroDivisor {r : Registers} (known : i.opcode? = some op)
    (good : i.badOperand? op = none) (zero : i.DividesByZero op r) :
    i.request r pc = .error (.fatal (.divisionByZero pc)) := by
  unfold badOperand? at good
  simp only [request, known, resolve_eq, checking, good, if_pos zero]

theorem request_of_sound {r : Registers} (known : i.opcode? = some op)
    (good : i.badOperand? op = none) (nonzero : ¬ i.DividesByZero op r) :
    i.request r pc = .ok (i.demand op r) := by
  unfold badOperand? at good
  simp only [request, known, resolve_eq, checking, good, if_neg nonzero]

end Request

/-- An instruction that can be served is of a known operation, each of its register operands names a
register, and it does not divide by zero. -/
theorem request_eq_ok {i : Instruction} {r : Registers} {pc : Word} {request : Request}
    (resolved : i.request r pc = .ok request) :
    ∃ op, i.opcode? = some op ∧ i.badOperand? op = none ∧ ¬ i.DividesByZero op r ∧
      request = i.demand op r := by
  cases known : i.opcode? with
  | none =>
    rw [request_of_unknown r pc known] at resolved
    cases resolved
  | some op =>
    cases checked : i.badOperand? op with
    | some slot =>
      rw [request_of_misnamed r pc known checked] at resolved
      cases resolved
    | none =>
      by_cases zero : i.DividesByZero op r
      · rw [request_of_zeroDivisor pc known checked zero] at resolved
        cases resolved
      · rw [request_of_sound pc known checked zero] at resolved
        cases resolved
        exact ⟨op, rfl, checked, zero, rfl⟩

theorem request_syscall {i : Instruction} (known : i.opcode? = some .syscall) (r : Registers)
    (pc : Word) :
    i.request r pc = .ok (.transfer (r.get descriptorRegister) (r.get pointerRegister)) := by
  simp only [request, known, resolve]

theorem opcode?_of_request_transfer {i : Instruction} {r : Registers} {pc descriptor pointer : Word}
    (resolved : i.request r pc = .ok (.transfer descriptor pointer)) :
    i.opcode? = some .syscall := by
  obtain ⟨op, known, _, _, asked⟩ := request_eq_ok resolved
  cases op with
  | syscall => exact known
  | _ => cases asked

end Instruction

end RegisterMachine

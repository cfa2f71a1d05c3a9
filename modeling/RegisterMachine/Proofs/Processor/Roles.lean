import RegisterMachine.Proofs.Processor.Update

/-! # The special registers of a processor

Two numbers can be chosen for the program counter and the stack pointer if they name two different
registers (`Roles.Valid`), and `Roles.ofIndices` accepts exactly these. `Processor.HasRoles` says what such
a choice means to a processor: the register with the first number is the one that `pc` reads and `setPc`
writes, the register with the second number is that of `sp` and `setSp`, and writing one of the two leaves
the other alone. It all follows from the numbers (`Processor.hasRoles_iff`).
-/

namespace RegisterMachine

namespace Roles

variable {pc sp : Nat} {roles : Roles}

def Valid (pc sp : Nat) : Prop :=
  pc < registerCount ∧ sp < registerCount ∧ pc ≠ sp

instance (pc sp : Nat) : Decidable (Valid pc sp) :=
  inferInstanceAs (Decidable (_ ∧ _))

theorem valid_val (roles : Roles) : Valid roles.pc.val roles.sp.val := by
  refine ⟨roles.pc.isLt, roles.sp.isLt, fun same => ?_⟩
  exact roles.distinct (Fin.ext same)

theorem ofIndices_val (roles : Roles) : ofIndices roles.pc.val roles.sp.val = .ok roles := by
  obtain ⟨pcBound, spBound, different⟩ := roles.valid_val
  simp [ofIndices, pcBound, spBound, different]

theorem ofIndices_eq_ok_iff :
    ofIndices pc sp = .ok roles ↔ roles.pc.val = pc ∧ roles.sp.val = sp := by
  constructor
  · intro accepted
    unfold ofIndices at accepted
    split at accepted
    · split at accepted
      · split at accepted
        · cases accepted
        · cases accepted
          exact ⟨rfl, rfl⟩
      · cases accepted
    · cases accepted
  · rintro ⟨rfl, rfl⟩
    exact roles.ofIndices_val

theorem exists_ofIndices_iff : (∃ roles, ofIndices pc sp = .ok roles) ↔ Valid pc sp := by
  constructor
  · rintro ⟨roles, accepted⟩
    obtain ⟨rfl, rfl⟩ := ofIndices_eq_ok_iff.1 accepted
    exact roles.valid_val
  · rintro ⟨pcBound, spBound, different⟩
    have distinct : (⟨pc, pcBound⟩ : RegisterIndex) ≠ ⟨sp, spBound⟩ :=
      fun same => different (congrArg Fin.val same)
    exact ⟨⟨_, _, distinct⟩, ofIndices_eq_ok_iff.2 ⟨rfl, rfl⟩⟩

end Roles

/-! ## Registers by number -/

namespace RegisterIndex

theorem ofNat?_val (i : RegisterIndex) : ofNat? i.val = some i :=
  dif_pos i.isLt

end RegisterIndex

namespace Registers

theorem get?_val (r : Registers) (i : RegisterIndex) : r.get? i.val = some (r.get i) := by
  rw [get?, RegisterIndex.ofNat?_val, Option.map_some]

theorem set?_val (r : Registers) (i : RegisterIndex) (value : Word) :
    r.set? i.val value = some (r.set i value) := by
  rw [set?, RegisterIndex.ofNat?_val, Option.map_some]

end Registers

/-! ## Numbers in force -/

namespace Processor

variable {capacity : Nat} {p p' : Processor capacity} {pc sp : Nat}

/-- The registers with these numbers are the program counter and the stack pointer. -/
structure HasRoles (p : Processor capacity) (pc sp : Nat) : Prop where
  chosen : p.roles.pc.val = pc ∧ p.roles.sp.val = sp
  valid : Roles.Valid pc sp
  get?_pc : p.registers.get? pc = some p.pc
  get?_sp : p.registers.get? sp = some p.sp
  set?_pc : ∀ value, p.registers.set? pc value = some (p.setPc value).registers
  set?_sp : ∀ value, p.registers.set? sp value = some (p.setSp value).registers
  setPc : ∀ value, (p.setPc value).pc = value ∧ (p.setPc value).sp = p.sp
  setSp : ∀ value, (p.setSp value).sp = value ∧ (p.setSp value).pc = p.pc

theorem hasRoles_iff : p.HasRoles pc sp ↔ p.roles.pc.val = pc ∧ p.roles.sp.val = sp := by
  refine ⟨HasRoles.chosen, ?_⟩
  rintro ⟨rfl, rfl⟩
  constructor
  case chosen => exact ⟨rfl, rfl⟩
  case valid => exact p.roles.valid_val
  case get?_pc => exact p.registers.get?_val _
  case get?_sp => exact p.registers.get?_val _
  case set?_pc => exact p.registers.set?_val _
  case set?_sp => exact p.registers.set?_val _
  case setPc => exact fun value => ⟨p.pc_setPc value, p.sp_setPc value⟩
  case setSp => exact fun value => ⟨p.sp_setSp value, p.pc_setSp value⟩

theorem HasRoles.congr (has : p.HasRoles pc sp) (same : p'.roles = p.roles) : p'.HasRoles pc sp := by
  rw [hasRoles_iff, same]
  exact has.chosen

theorem hasRoles_of_ofIndices (accepted : Roles.ofIndices pc sp = .ok p.roles) : p.HasRoles pc sp :=
  hasRoles_iff.2 (Roles.ofIndices_eq_ok_iff.1 accepted)

end Processor

end RegisterMachine

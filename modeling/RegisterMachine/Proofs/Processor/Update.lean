import RegisterMachine.Processor.Basic

/-! # Updates of the processor

What each update of the processor does to each of its parts, so that no later proof opens an update
again. The two that matter to a cycle are `stop`, which ends it with a fault, and `complete`, which
applies the effect of an instruction; `get_complete` and `pc_complete` say what the registers hold
after each of the four effects.
-/

namespace RegisterMachine

/-! ## Flags -/

namespace Flags

/-- The fifteen bits other than `running`. -/
def reserved (flags : Flags) : UInt16 :=
  flags.bits &&& ~~~running

@[simp] theorem reserved_remove_running (flags : Flags) :
    (flags.remove running).reserved = flags.reserved := by
  simp only [reserved, remove, UInt16.and_assoc, UInt16.and_self]

@[simp] theorem contains_remove_running (flags : Flags) :
    (flags.remove running).contains running = false := by
  have cleared : flags.bits &&& ~~~running &&& running = 0 := by
    rw [UInt16.and_assoc, UInt16.not_and_self, UInt16.and_zero]
  simp only [contains, remove, cleared]
  rfl

@[simp] theorem contains_insert_running (flags : Flags) :
    (flags.insert running).contains running = true := by
  have set : (flags.bits ||| running) &&& running = running := by
    apply UInt16.toBitVec_inj.1
    ext i
    simp only [UInt16.toBitVec_and, UInt16.toBitVec_or, BitVec.getElem_and, BitVec.getElem_or]
    grind
  simp only [contains, insert, set, beq_self_eq_true]

end Flags

/-! ## Registers -/

namespace Registers

theorem get_set (r : Registers) (i j : RegisterIndex) (value : Word) :
    (r.set i value).get j = if j = i then value else r.get j := by
  show (r.file.set i.val value i.isLt)[j.val] = if j = i then value else r.file[j.val]
  rw [Vector.getElem_set]
  by_cases same : j = i
  · simp [same]
  · have apart : ¬ i.val = j.val := fun equal => same (Fin.ext equal.symm)
    simp [same, apart]

theorem set_set (r : Registers) (i : RegisterIndex) (value other : Word) :
    (r.set i value).set i other = r.set i other := by
  simp only [set, Vector.set_set]

theorem set_comm (r : Registers) {i j : RegisterIndex} (apart : i ≠ j) (value other : Word) :
    (r.set i value).set j other = (r.set j other).set i value := by
  simp only [set]
  rw [Vector.set_comm _ _ (Fin.val_ne_of_ne apart)]

theorem set_get (r : Registers) (i : RegisterIndex) : r.set i (r.get i) = r := by
  obtain ⟨file, flags⟩ := r
  exact congrArg (Registers.mk · flags) (Vector.set_getElem_self i.isLt)

@[simp] theorem file_setRunning (r : Registers) (on : Bool) : (r.setRunning on).file = r.file := rfl

@[simp] theorem running_setRunning_false (r : Registers) : (r.setRunning false).running = false :=
  Flags.contains_remove_running r.flags

@[simp] theorem running_setRunning_true (r : Registers) : (r.setRunning true).running = true :=
  Flags.contains_insert_running r.flags

@[simp] theorem reserved_setRunning_false (r : Registers) :
    (r.setRunning false).flags.reserved = r.flags.reserved :=
  Flags.reserved_remove_running r.flags

end Registers

namespace Processor

variable {capacity : Nat}

/-! ## Moving a special register -/

section Moves

variable (p : Processor capacity) (value : Word)

@[simp] theorem pc_setPc : (p.setPc value).pc = value := by
  show (p.registers.set p.roles.pc value).get p.roles.pc = value
  rw [Registers.get_set, if_pos rfl]

@[simp] theorem sp_setPc : (p.setPc value).sp = p.sp := by
  show (p.registers.set p.roles.pc value).get p.roles.sp = p.sp
  rw [Registers.get_set, if_neg p.roles.distinct.symm]
  rfl

@[simp] theorem sp_setSp : (p.setSp value).sp = value := by
  show (p.registers.set p.roles.sp value).get p.roles.sp = value
  rw [Registers.get_set, if_pos rfl]

@[simp] theorem pc_setSp : (p.setSp value).pc = p.pc := by
  show (p.registers.set p.roles.sp value).get p.roles.pc = p.pc
  rw [Registers.get_set, if_neg p.roles.distinct]
  rfl

end Moves

/-! ## Stopping -/

@[simp] theorem registers_stop (p : Processor capacity) (fault : Fault) :
    (p.stop fault).registers = p.registers.setRunning false := rfl

@[simp] theorem pc_stop (p : Processor capacity) (fault : Fault) : (p.stop fault).pc = p.pc := rfl

@[simp] theorem stack_stop (p : Processor capacity) (fault : Fault) :
    (p.stop fault).stack = p.stack := rfl

@[simp] theorem roles_stop (p : Processor capacity) (fault : Fault) :
    (p.stop fault).roles = p.roles := rfl

@[simp] theorem cycles_stop (p : Processor capacity) (fault : Fault) :
    (p.stop fault).cycles = p.cycles := rfl

@[simp] theorem fault_stop (p : Processor capacity) (fault : Fault) :
    (p.stop fault).fault = some fault := rfl

/-! ## Completing an instruction -/

@[simp] theorem stack_complete (p : Processor capacity) (effect : Effect) :
    (p.complete effect).stack = p.stack := by
  cases effect <;> rfl

@[simp] theorem roles_complete (p : Processor capacity) (effect : Effect) :
    (p.complete effect).roles = p.roles := by
  cases effect <;> rfl

@[simp] theorem fault_complete (p : Processor capacity) (effect : Effect) :
    (p.complete effect).fault = p.fault := by
  cases effect <;> rfl

@[simp] theorem cycles_complete (p : Processor capacity) (effect : Effect) :
    (p.complete effect).cycles = p.cycles + 1 := by
  cases effect <;> rfl

@[simp] theorem reserved_complete (p : Processor capacity) (effect : Effect) :
    (p.complete effect).registers.flags.reserved = p.registers.flags.reserved := by
  cases effect with
  | halt => exact p.registers.reserved_setRunning_false
  | advance | assign _ _ | jump _ => rfl

/-- Only the effect `halt` touches the running flag. -/
theorem running_complete (p : Processor capacity) (effect : Effect) :
    (p.complete effect).registers.running = (p.registers.running && decide (effect ≠ .halt)) := by
  cases effect with
  | halt =>
    have halted : (p.complete .halt).registers.running = false :=
      p.registers.running_setRunning_false
    simp [halted]
  | advance => exact (Bool.and_true _).symm
  | assign _ _ => exact (Bool.and_true _).symm
  | jump _ => exact (Bool.and_true _).symm

theorem get_complete (p : Processor capacity) (effect : Effect) {i : RegisterIndex}
    (general : i ≠ p.roles.pc) :
    (p.complete effect).registers.get i =
      match effect with
      | .assign target value => if i = target then value else p.registers.get i
      | _ => p.registers.get i := by
  cases effect with
  | advance | jump _ => simp only [complete, count, advance, setPc, setRegister, Registers.get_set,
      if_neg general]
  | assign target value =>
    show ((p.registers.set target value).set p.roles.pc _).get i = _
    simp only [Registers.get_set, if_neg general]
  | halt => rfl

/-- Where a completed instruction leaves the program counter. One that was assigned to is read again
after the assignment. -/
theorem pc_complete (p : Processor capacity) (effect : Effect) :
    (p.complete effect).pc =
      match effect with
      | .advance => p.pc + 1
      | .assign target value => (if p.roles.pc = target then value else p.pc) + 1
      | .jump target => target
      | .halt => p.pc := by
  cases effect with
  | advance => exact p.pc_setPc (p.pc + 1)
  | assign target value =>
    refine ((p.setRegister target value).pc_setPc _).trans (congrArg (· + 1) ?_)
    exact p.registers.get_set target p.roles.pc value
  | jump target => exact p.pc_setPc target
  | halt => rfl

end Processor

end RegisterMachine

import RegisterMachine.Processor.Registers

/-! # Special registers

Two of the general registers have a special role: one is the program counter, one the stack pointer.
Which ones is chosen when a processor is made. The type `Roles` holds valid choices only; `ofIndices`
checks a proposed choice.
-/

namespace RegisterMachine

/-- A choice of the program counter and the stack pointer: two different registers. -/
structure Roles where
  pc : RegisterIndex
  sp : RegisterIndex
  distinct : pc ≠ sp
deriving DecidableEq, Repr

inductive RoleError where
  | outOfRange (index : Nat)
  | shared (index : Nat)
deriving DecidableEq, Repr

namespace RoleError

def message : RoleError → String
  | .outOfRange index => "register index " ++ Text.decimal index ++ " out of range (0-15)"
  | .shared index =>
    "program counter and stack pointer both assigned to register " ++ Text.decimal index

end RoleError

namespace Roles

/-- Checks a proposed choice: first that both indices name registers, the program counter's before the
stack pointer's, then that they differ. -/
def ofIndices (pc sp : Nat) : Except RoleError Roles :=
  if hpc : pc < registerCount then
    if hsp : sp < registerCount then
      if h : pc = sp then .error (.shared pc)
      else .ok { pc := ⟨pc, hpc⟩, sp := ⟨sp, hsp⟩, distinct := fun e => h (congrArg Fin.val e) }
    else .error (.outOfRange sp)
  else .error (.outOfRange pc)

/-- The usual choice: register 0 counts, register 1 points to the stack. -/
def standard : Roles where
  pc := ⟨0, by decide⟩
  sp := ⟨1, by decide⟩
  distinct := by decide

end Roles

end RegisterMachine

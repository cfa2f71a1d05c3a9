import RegisterMachine.Word
import RegisterMachine.Processor.Flags

/-! # The register file

Sixteen general registers and the status flags. An operand of an instruction is any 16-bit number, so
the operand-level accessors `get?` and `set?` fail on a number that names no register.
-/

namespace RegisterMachine

/-! ## Indices -/

abbrev registerCount : Nat := 16

abbrev RegisterIndex := Fin registerCount

def RegisterIndex.ofNat? (n : Nat) : Option RegisterIndex :=
  if h : n < registerCount then some ⟨n, h⟩ else none

/-- All registers, four a row, as hosts show them. -/
def RegisterIndex.rows : List (List RegisterIndex) :=
  [[0, 1, 2, 3], [4, 5, 6, 7], [8, 9, 10, 11], [12, 13, 14, 15]]

/-! ## The file -/

structure Registers where
  file : Vector Word registerCount
  flags : Flags
deriving DecidableEq, Repr

namespace Registers

def cleared : Registers where
  file := Vector.replicate registerCount 0
  flags := .empty

def get (r : Registers) (i : RegisterIndex) : Word :=
  r.file.get i

def set (r : Registers) (i : RegisterIndex) (value : Word) : Registers :=
  { r with file := r.file.set i.val value i.isLt }

/-- The value of the register that a number names, if it names one. -/
def get? (r : Registers) (n : Nat) : Option Word :=
  (RegisterIndex.ofNat? n).map r.get

def set? (r : Registers) (n : Nat) (value : Word) : Option Registers :=
  (RegisterIndex.ofNat? n).map fun i => r.set i value

def running (r : Registers) : Bool :=
  r.flags.contains Flags.running

def setRunning (r : Registers) (on : Bool) : Registers :=
  { r with flags := r.flags.assign Flags.running on }

def toList (r : Registers) : List Word :=
  r.file.toList

end Registers

end RegisterMachine

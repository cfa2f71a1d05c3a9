import RegisterMachine.Word
import RegisterMachine.Text.Numeral

/-! # Flat memory

A fixed number of cells, each one word, addressed from zero. Every access is checked against the
bounds, and no operation changes the number of cells. Memory is always smaller than the address space,
which is part of the type: walking upwards through the cells leaves them before addresses wrap around.
-/

namespace RegisterMachine

inductive MemoryError where
  | outOfBounds (address : Word)
  /-- No memory is installed, or it does not serve this direction. -/
  | notInstalled
  | programTooLarge (size available : Nat)
deriving DecidableEq, Repr

def MemoryError.message : MemoryError → String
  | .outOfBounds address => "memory address " ++ Text.hex address.toNat ++ " out of bounds"
  | .notInstalled => "no memory callback installed"
  | .programTooLarge size available =>
    "program size " ++ Text.decimal size ++ " exceeds available space " ++ Text.decimal available

/-- A block of cells, smaller than the address space. -/
structure Memory where
  cells : Array Word
  /-- Every cell has an address, and at least one address has no cell. -/
  addressable : cells.size < UInt64.size
deriving DecidableEq, Repr

namespace Memory

/-- Memory of the given size with every cell zero. There is one for every size: that a host may not have
the room for it is not part of the model. -/
def zeroed (size : Word) : Memory where
  cells := Array.replicate size.toNat 0
  addressable := by simpa using size.toNat_lt_size

def defaultSize : Word := 65536

/-! ## Single cells -/

def size (m : Memory) : Nat :=
  m.cells.size

def toList (m : Memory) : List Word :=
  m.cells.toList

def read (m : Memory) (address : Word) : Except MemoryError Word :=
  if h : address.toNat < m.cells.size then .ok m.cells[address.toNat]
  else .error (.outOfBounds address)

def write (m : Memory) (address value : Word) : Except MemoryError Unit × Memory :=
  if h : address.toNat < m.cells.size then
    (.ok (), ⟨m.cells.set address.toNat value h, by simpa using m.addressable⟩)
  else (.error (.outOfBounds address), m)

/-! ## Programs and strings -/

/-- Replaces the cells from index `start` on by the given words, as far as there are cells. -/
def overwrite (cells : Array Word) (start : Nat) : List Word → Array Word
  | [] => cells
  | word :: words => overwrite (cells.setIfInBounds start word) (start + 1) words

@[simp] theorem size_overwrite (cells : Array Word) (start : Nat) (words : List Word) :
    (overwrite cells start words).size = cells.size := by
  induction words generalizing cells start with
  | nil => rfl
  | cons word words ih => simp [overwrite, ih]

def available (m : Memory) (start : Word) : Nat :=
  m.cells.size - start.toNat

/-- Copies a program into consecutive cells. A program that does not fit is refused as a whole. -/
def loadProgram (m : Memory) (start : Word) (program : List Word) :
    Except MemoryError Unit × Memory :=
  if program.length ≤ m.available start then
    (.ok (), ⟨overwrite m.cells start.toNat program, by simpa using m.addressable⟩)
  else (.error (.programTooLarge program.length (m.available start)), m)

/-- Copies bytes into consecutive cells, one byte a cell, and ends them with a zero cell. -/
def loadString (m : Memory) (start : Word) (bytes : List UInt8) :
    Except MemoryError Unit × Memory :=
  m.loadProgram start (bytes.map UInt8.toUInt64 ++ [0])

def clear (m : Memory) : Memory where
  cells := Array.replicate m.cells.size 0
  addressable := by simpa using m.addressable

/-! ## Dumps -/

/-- The sum of two indices, or the largest index if the sum is none. -/
def saturatingAdd (i j : Nat) : Nat :=
  min (i + j) (UInt64.size - 1)

/-- At most `count` cells from index `start` on, each with its index. -/
def dump (m : Memory) (start count : Nat) : List (Nat × Word) :=
  (List.range' start (min (saturatingAdd start count) m.cells.size - start)).map fun i =>
    (i, m.cells.getD i 0)

end Memory

end RegisterMachine

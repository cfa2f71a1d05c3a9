import RegisterMachine.Word

/-! # Breakpoints

A set of addresses, kept as a list in ascending order.
-/

namespace RegisterMachine.Debugger

/-- The addresses at which continuous execution pauses, ascending. -/
structure Breakpoints where
  addresses : List Word := []
deriving DecidableEq, Repr

namespace Breakpoints

def contains (b : Breakpoints) (address : Word) : Bool :=
  b.addresses.contains address

def place (address : Word) : List Word → List Word
  | [] => [address]
  | first :: rest =>
    if address < first then address :: first :: rest else first :: place address rest

def insert (b : Breakpoints) (address : Word) : Breakpoints :=
  if b.contains address then b else ⟨place address b.addresses⟩

def erase (b : Breakpoints) (address : Word) : Breakpoints :=
  ⟨b.addresses.filter (· != address)⟩

end Breakpoints

end RegisterMachine.Debugger

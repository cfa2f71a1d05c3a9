import RegisterMachine.Word

/-! # The reserved stack

A last-in first-out store of words with a fixed number of slots. The instruction set does not use it; hosts
do. The slots in use are the first ones. A slot that is given up keeps its word until it is used again, and
that no more slots are in use than there are is part of the type.
-/

namespace RegisterMachine

/-- A stack of at most `capacity` words. -/
structure Stack (capacity : Nat) where
  slots : Vector Word capacity
  /-- The number of slots in use, from the first one on. -/
  size : Nat
  bounded : size ≤ capacity
deriving DecidableEq, Repr

namespace Stack

variable {capacity : Nat}

/-- The stack without entries, with every slot zero. -/
def empty : Stack capacity where
  slots := Vector.replicate capacity 0
  size := 0
  bounded := Nat.zero_le _

instance : Inhabited (Stack capacity) := ⟨empty⟩

/-- The entries, the oldest first. -/
def toList (s : Stack capacity) : List Word :=
  s.slots.toList.take s.size

theorem size_lt {s : Stack capacity} (room : s.size ≠ capacity) : s.size < capacity :=
  Nat.lt_of_le_of_ne s.bounded room

theorem top_lt {s : Stack capacity} (inhabited : s.size ≠ 0) : s.size - 1 < capacity :=
  Nat.lt_of_lt_of_le (Nat.sub_one_lt inhabited) s.bounded

/-- Puts a word on top. A full stack refuses it and stays as it is. -/
def push (s : Stack capacity) (value : Word) : Bool × Stack capacity :=
  if full : s.size = capacity then (false, s)
  else
    (true,
      { slots := s.slots.set s.size value (size_lt full)
        size := s.size + 1
        bounded := size_lt full })

def peek? (s : Stack capacity) : Option Word :=
  if vacant : s.size = 0 then none
  else some (s.slots.get ⟨s.size - 1, top_lt vacant⟩)

/-- Takes the word on top. An empty stack stays as it is. -/
def pop (s : Stack capacity) : Option Word × Stack capacity :=
  if vacant : s.size = 0 then (none, s)
  else
    (some (s.slots.get ⟨s.size - 1, top_lt vacant⟩),
      { s with size := s.size - 1, bounded := Nat.le_of_lt (top_lt vacant) })

/-- Gives up all entries and sets every slot to zero. -/
def clear (_ : Stack capacity) : Stack capacity :=
  .empty

end Stack

end RegisterMachine

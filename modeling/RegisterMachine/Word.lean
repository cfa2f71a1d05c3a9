/-! # Words

The machine stores, computes and addresses with one unit, the 64-bit word. Arithmetic on words wraps
around; addresses are words as well.
-/

namespace RegisterMachine

/-- The machine's unit of storage and of addressing: an unsigned 64-bit value. -/
abbrev Word := UInt64

def Word.ofNat? (n : Nat) : Option Word :=
  if n < UInt64.size then some (UInt64.ofNat n) else none

end RegisterMachine

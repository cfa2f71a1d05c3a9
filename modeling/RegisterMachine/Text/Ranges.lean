/-! # Ranges of code points

Properties of characters are kept as tables of closed ranges of code points, in ascending order.
-/

namespace RegisterMachine.Text

def inRanges (table : List (Nat × Nat)) (c : Char) : Bool :=
  table.any fun (first, last) => first ≤ c.toNat && c.toNat ≤ last

end RegisterMachine.Text

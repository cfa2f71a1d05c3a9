/-! # Numerals

How numbers are written in messages, listings and screens: decimal, hexadecimal with a `0x` mark, and
both filled up to a least width.
-/

namespace RegisterMachine.Text

/-- The text filled up on the left with `fill` to at least `width` characters. -/
def padLeft (width : Nat) (fill : Char) (text : String) : String :=
  String.ofList (List.replicate (width - text.length) fill) ++ text

/-- The text filled up on the right with spaces to at least `width` characters. -/
def padRight (width : Nat) (text : String) : String :=
  text ++ String.ofList (List.replicate (width - text.length) ' ')

/-- The decimal numeral of a number, without leading zeros. -/
def decimal (n : Nat) : String :=
  String.ofList (Nat.toDigits 10 n)

/-- The hexadecimal digits of a number, in lower case and without leading zeros. -/
def hexDigits (n : Nat) : String :=
  String.ofList (Nat.toDigits 16 n)

def hex (n : Nat) : String :=
  "0x" ++ hexDigits n

/-- The hexadecimal numeral of a number with at least `width` digits after the mark. -/
def hexPadded (width n : Nat) : String :=
  "0x" ++ padLeft width '0' (hexDigits n)

/-- Addresses in listings are decimal with at least four digits. -/
def listingAddress (n : Nat) : String :=
  padLeft 4 '0' (decimal n)

/-- A whole word in hexadecimal, all sixteen digits. -/
def hexWord (word : UInt64) : String :=
  hexPadded 16 word.toNat

end RegisterMachine.Text

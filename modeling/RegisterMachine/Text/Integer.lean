import RegisterMachine.Word

/-! # Reading whole numbers

A number is one optional plus sign and at least one digit of the radix; leading zeros are allowed, and
the value must fit in a word. Digits are taken from left to right, and each one is checked to be a
digit before the value is checked to be small enough. So of two mistakes the one further left counts,
and a character that is no digit wins over an overflow at the same place.
-/

namespace RegisterMachine.Text

inductive IntegerError where
  | empty
  | invalidDigit
  | tooLarge
deriving DecidableEq, Repr

def IntegerError.message : IntegerError → String
  | .empty => "cannot parse integer from empty string"
  | .invalidDigit => "invalid digit found in string"
  | .tooLarge => "number too large to fit in target type"

/-- The value of a digit in a radix up to 16, letters in either case. -/
def digitValue? (radix : Nat) (c : Char) : Option Nat :=
  let value :=
    if '0' ≤ c ∧ c ≤ '9' then some (c.toNat - '0'.toNat)
    else if 'a' ≤ c ∧ c ≤ 'f' then some (c.toNat - 'a'.toNat + 10)
    else if 'A' ≤ c ∧ c ≤ 'F' then some (c.toNat - 'A'.toNat + 10)
    else none
  value.filter (· < radix)

/-- Reads digits behind a value already read. -/
def readDigits (radix : Nat) : Nat → List Char → Except IntegerError Nat
  | value, [] => .ok value
  | value, c :: rest =>
    match digitValue? radix c with
    | none => .error .invalidDigit
    | some digit =>
      if value * radix + digit < UInt64.size then readDigits radix (value * radix + digit) rest
      else .error .tooLarge

def readWord (radix : Nat) (text : List Char) : Except IntegerError Word :=
  match text with
  | [] => .error .empty
  | ['+'] => .error .invalidDigit
  | '+' :: digits => (readDigits radix 0 digits).map UInt64.ofNat
  | digits => (readDigits radix 0 digits).map UInt64.ofNat

end RegisterMachine.Text

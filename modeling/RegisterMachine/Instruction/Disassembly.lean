import RegisterMachine.Instruction.Basic
import RegisterMachine.Text.Numeral

/-! # Disassembly

Assembly text for single words, and addressed listings of whole programs. A word whose operation
number is unknown is shown as `???` with all its bits, so that data in a listing stays recognisable.
-/

namespace RegisterMachine

open Text

/-- An operand as written: registers by `r`, addresses by `@`, immediates bare. -/
def OperandKind.render (kind : OperandKind) (value : UInt16) : String :=
  match kind with
  | .register => "r" ++ decimal value.toNat
  | .immediate => decimal value.toNat
  | .address => "@" ++ decimal value.toNat

def Instruction.render (i : Instruction) : String :=
  match i.opcode? with
  | none => "??? " ++ hexWord i.toWord
  | some op =>
    match i.operands op with
    | [] => op.mnemonic
    | operands =>
      op.mnemonic ++ " " ++ ", ".intercalate (operands.map fun (kind, value) => kind.render value)

def disassemble (word : Word) : String :=
  (Instruction.ofWord word).render

/-- One line of a listing: address, assembly text in a column of 24, and the word itself. -/
def listingLine (address : Nat) (word : Word) : String :=
  listingAddress address ++ ": " ++ padRight 24 (disassemble word) ++ " ; " ++ hexWord word ++ "\n"

def listingHeading : String :=
  "; regvm disassembly\n; -----------------\n\n"

/-- The addressed listing of a program, counting from address 0. -/
def listing (words : List Word) : String :=
  listingHeading ++ String.join (words.mapIdx listingLine)

end RegisterMachine

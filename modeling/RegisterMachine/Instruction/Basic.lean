import RegisterMachine.Word
import RegisterMachine.Instruction.Opcode

/-! # Instructions

An instruction occupies one word: a 16-bit operation number in the low bits, then three 16-bit
operands. `ofWord` and `toWord` are two views of the same 64 bits; every word has a decoded view, and
whether its operation number is a known one is a separate question, answered by `opcode?`.
-/

namespace RegisterMachine

structure Instruction where
  /-- The operation number, which need not name a known operation. -/
  code : UInt16
  a : UInt16
  b : UInt16
  c : UInt16
deriving DecidableEq, Repr

namespace Instruction

/-- Splits a word into its fields, lowest bits first. -/
def ofWord (word : Word) : Instruction where
  code := word.toUInt16
  a := (word >>> 16).toUInt16
  b := (word >>> 32).toUInt16
  c := (word >>> 48).toUInt16

def toWord (i : Instruction) : Word :=
  i.code.toUInt64 ||| i.a.toUInt64 <<< 16 ||| i.b.toUInt64 <<< 32 ||| i.c.toUInt64 <<< 48

def of (op : Opcode) (a b c : UInt16) : Instruction where
  code := op.code
  a := a
  b := b
  c := c

def opcode? (i : Instruction) : Option Opcode :=
  Opcode.ofCode? i.code

def slots (i : Instruction) : List UInt16 :=
  [i.a, i.b, i.c]

/-- The used operand slots of the instruction under an operation, each with its meaning. -/
def operands (i : Instruction) (op : Opcode) : List (OperandKind × UInt16) :=
  op.operands.zip i.slots

end Instruction

def encode (op : Opcode) (a b c : UInt16) : Word :=
  (Instruction.of op a b c).toWord

end RegisterMachine

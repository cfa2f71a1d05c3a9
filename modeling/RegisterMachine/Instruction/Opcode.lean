import RegisterMachine.Text.Numeral

/-! # Opcodes

The twenty-one operations of the machine, their numbers in the program encoding, their mnemonics and
the meaning of their operand slots.

The numbering is part of the encoding: `ofCode?` is the partial inverse of `code`, and a number of 21
or more names no operation.
-/

namespace RegisterMachine

inductive Opcode where
  | nop
  | add | sub | mul | div
  | addi | subi | muli | divi
  | mov | movi | load | store
  | beq | bne | blt | bgt | jmp | jmpr
  | halt
  | syscall
deriving DecidableEq, Repr

/-- How an operation reads one of its operand slots. -/
inductive OperandKind where
  | register
  /-- The slot holds a value, extended with zeros to a word. -/
  | immediate
  | address
deriving DecidableEq, Repr

namespace Opcode

/-! ## Numbers -/

/-- Every operation, in the order of the encoding. -/
def all : List Opcode :=
  [.nop, .add, .sub, .mul, .div, .addi, .subi, .muli, .divi, .mov, .movi, .load, .store,
   .beq, .bne, .blt, .bgt, .jmp, .jmpr, .halt, .syscall]

def code : Opcode → UInt16
  | .nop => 0
  | .add => 1
  | .sub => 2
  | .mul => 3
  | .div => 4
  | .addi => 5
  | .subi => 6
  | .muli => 7
  | .divi => 8
  | .mov => 9
  | .movi => 10
  | .load => 11
  | .store => 12
  | .beq => 13
  | .bne => 14
  | .blt => 15
  | .bgt => 16
  | .jmp => 17
  | .jmpr => 18
  | .halt => 19
  | .syscall => 20

def ofCode? (code : UInt16) : Option Opcode :=
  all[code.toNat]?

/-! ## Assembly text -/

def mnemonic : Opcode → String
  | .nop => "NOP"
  | .add => "ADD"
  | .sub => "SUB"
  | .mul => "MUL"
  | .div => "DIV"
  | .addi => "ADDI"
  | .subi => "SUBI"
  | .muli => "MULI"
  | .divi => "DIVI"
  | .mov => "MOV"
  | .movi => "MOVI"
  | .load => "LOAD"
  | .store => "STORE"
  | .beq => "BEQ"
  | .bne => "BNE"
  | .blt => "BLT"
  | .bgt => "BGT"
  | .jmp => "JMP"
  | .jmpr => "JMPR"
  | .halt => "HALT"
  | .syscall => "SYSCALL"

/-- What each used operand slot means, in slot order. The slots past the end are ignored. -/
def operands : Opcode → List OperandKind
  | .nop | .halt | .syscall => []
  | .add | .sub | .mul | .div | .mov => [.register, .register]
  | .addi | .subi | .muli | .divi | .movi => [.register, .immediate]
  | .load | .store => [.register, .address]
  | .beq | .bne | .blt | .bgt => [.register, .register, .address]
  | .jmp => [.address]
  | .jmpr => [.register]

/-- Whether the operation may set the program counter itself instead of advancing it. -/
def isBranch : Opcode → Bool
  | .beq | .bne | .blt | .bgt | .jmp | .jmpr => true
  | _ => false

def unknownCodeMessage (code : UInt16) : String :=
  "No discriminant in enum `Opcode` matches the value `" ++ Text.decimal code.toNat ++ "`"

end Opcode

end RegisterMachine

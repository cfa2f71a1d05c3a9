import RegisterMachine.Json.Value
import RegisterMachine.Text.Numeral

/-! # Printing JSON

Two layouts: compact, without any blanks, and pretty, with one member or item a line and two more
spaces for each level. Members are written in the order they have.
-/

namespace RegisterMachine.Json

open Text

def escapeChar (c : Char) : List Char :=
  if c = '"' then ['\\', '"']
  else if c = '\\' then ['\\', '\\']
  else if c = Char.ofNat 8 then ['\\', 'b']
  else if c = Char.ofNat 12 then ['\\', 'f']
  else if c = '\n' then ['\\', 'n']
  else if c = '\r' then ['\\', 'r']
  else if c = '\t' then ['\\', 't']
  else if c.toNat < 32 then "\\u".toList ++ (padLeft 4 '0' (hexDigits c.toNat)).toList
  else [c]

/-- A character of a string, or the escape of a surrogate without its partner. -/
def escapeGlyph : Glyph → List Char
  | .char c => escapeChar c
  | .lone unit => "\\u".toList ++ (padLeft 4 '0' (hexDigits unit)).toList

def printString (text : List Glyph) : List Char :=
  '"' :: text.flatMap escapeGlyph ++ ['"']

structure Layout where
  newline : Nat → List Char
  afterColon : List Char

def Layout.compact : Layout where
  newline _ := []
  afterColon := []

/-- One member or item a line, two spaces for each level, and a space behind each colon. -/
def Layout.pretty : Layout where
  newline level := '\n' :: List.replicate (2 * level) ' '
  afterColon := [' ']

mutual

def print (layout : Layout) (level : Nat) : Json → List Char
  | .null => "null".toList
  | .bool true => "true".toList
  | .bool false => "false".toList
  | .number spelling => spelling
  | .string text => printString text
  | .array [] => ['[', ']']
  | .array (item :: items) =>
    '[' :: layout.newline (level + 1) ++ print layout (level + 1) item ++
      printItems layout (level + 1) items ++ layout.newline level ++ [']']
  | .object [] => ['{', '}']
  | .object (member :: members) =>
    '{' :: layout.newline (level + 1) ++ printMember layout (level + 1) member ++
      printMembers layout (level + 1) members ++ layout.newline level ++ ['}']

/-- Prints the items of an array behind the first one. -/
def printItems (layout : Layout) (level : Nat) : List Json → List Char
  | [] => []
  | item :: items =>
    ',' :: layout.newline level ++ print layout level item ++ printItems layout level items

def printMember (layout : Layout) (level : Nat) : List Glyph × Json → List Char
  | (name, value) => printString name ++ ':' :: layout.afterColon ++ print layout level value

def printMembers (layout : Layout) (level : Nat) : List (List Glyph × Json) → List Char
  | [] => []
  | member :: members =>
    ',' :: layout.newline level ++ printMember layout level member ++
      printMembers layout level members

end

def pretty (value : Json) : String :=
  String.ofList (print .pretty 0 value)

def compact (value : Json) : String :=
  String.ofList (print .compact 0 value)

/-! ## Making values -/

def glyphsOf (text : String) : List Glyph :=
  text.toList.map .char

def ofText (text : String) : Json :=
  .string (glyphsOf text)

def ofNat (n : Nat) : Json :=
  .number (decimal n).toList

def ofFields (fields : List (String × Json)) : Json :=
  .object (fields.map fun (name, value) => (glyphsOf name, value))

def ofOption {α : Type} (write : α → Json) : Option α → Json
  | none => .null
  | some a => write a

end RegisterMachine.Json

import RegisterMachine.Json.Value

/-! # The grammar of JSON texts

Which texts spell which value, said without a reader. Blanks may stand around every value and on both
sides of a member's name; a character of a string may be written as it is, with a short escape or with a
numeric one; a number is spelled by itself.

`Spells` is about values with the blanks around them, so that a list is no more than its items with
commas in between.
-/

namespace RegisterMachine.Json

/-- Nothing but blanks, which are four characters. -/
def Blanks (text : List Char) : Prop :=
  ∀ c ∈ text, c = ' ' ∨ c = '\t' ∨ c = '\n' ∨ c = '\r'

theorem blanks_nil : Blanks [] := nofun

theorem Blanks.append {text texts : List Char} (first : Blanks text) (second : Blanks texts) :
    Blanks (text ++ texts) := by
  intro c member
  obtain inFirst | inSecond := List.mem_append.1 member
  · exact first c inFirst
  · exact second c inSecond

/-! ## Numbers -/

structure Digits (text : List Char) : Prop where
  nonempty : text ≠ []
  digits : ∀ c ∈ text, c.isDigit = true

/-- A whole number without sign begins with a zero only if it is zero. -/
inductive Whole : List Char → Prop where
  | zero : Whole ['0']
  | positive {first : Char} {rest : List Char} (nonzero : first ≠ '0')
      (digits : Digits (first :: rest)) : Whole (first :: rest)

inductive Fraction : List Char → Prop where
  | absent : Fraction []
  | present {digits : List Char} (spelled : Digits digits) : Fraction ('.' :: digits)

inductive Exponent : List Char → Prop where
  | absent : Exponent []
  | present {mark : Char} {sign digits : List Char} (marked : mark = 'e' ∨ mark = 'E')
      (signed : sign = [] ∨ sign = ['+'] ∨ sign = ['-']) (spelled : Digits digits) :
      Exponent (mark :: (sign ++ digits))

inductive Numeral : List Char → Prop where
  | unsigned {whole fraction exponent : List Char} (first : Whole whole)
      (second : Fraction fraction) (third : Exponent exponent) :
      Numeral (whole ++ fraction ++ exponent)
  | negative {whole fraction exponent : List Char} (first : Whole whole)
      (second : Fraction fraction) (third : Exponent exponent) :
      Numeral ('-' :: (whole ++ fraction ++ exponent))

/-! ## Strings -/

/-- The letters behind a backslash, with the characters that they stand for. -/
def shortEscapes : List (Char × Char) :=
  [('"', '"'), ('\\', '\\'), ('/', '/'), ('b', Char.ofNat 8), ('f', Char.ofNat 12), ('n', '\n'),
    ('r', '\r'), ('t', '\t')]

def HexDigit (value : Nat) (c : Char) : Prop :=
  value < 16 ∧ (c = value.digitChar ∨ c = value.digitChar.toUpper)

inductive SpellsPiece : Piece → List Char → Prop where
  | plain {c : Char} (printable : 32 ≤ c.toNat) (notQuote : c ≠ '"') (notBackslash : c ≠ '\\') :
      SpellsPiece (.char c) [c]
  | short {letter c : Char} (listed : (letter, c) ∈ shortEscapes) :
      SpellsPiece (.char c) ['\\', letter]
  | numeric {a b c d : Char} {p q r s : Nat} (first : HexDigit p a) (second : HexDigit q b)
      (third : HexDigit r c) (fourth : HexDigit s d) :
      SpellsPiece (.escape (((p * 16 + q) * 16 + r) * 16 + s)) ['\\', 'u', a, b, c, d]

inductive SpellsPieces : List Piece → List Char → Prop where
  | nil : SpellsPieces [] []
  | cons {piece : Piece} {pieces : List Piece} {text texts : List Char}
      (first : SpellsPiece piece text) (rest : SpellsPieces pieces texts) :
      SpellsPieces (piece :: pieces) (text ++ texts)

/-- Two numeric escapes that form a surrogate pair spell one character. -/
inductive SpellsString : List Glyph → List Char → Prop where
  | quoted {pieces : List Piece} {text : List Char} (spelled : SpellsPieces pieces text) :
      SpellsString (glyphs pieces) ('"' :: text ++ ['"'])

/-! ## Values -/

mutual

inductive Spells : Json → List Char → Prop where
  | padded {value : Json} {before text after : List Char} (first : Blanks before)
      (spelled : Spells value text) (last : Blanks after) : Spells value (before ++ text ++ after)
  | null : Spells .null "null".toList
  | true : Spells (.bool true) "true".toList
  | false : Spells (.bool false) "false".toList
  | number {spelling : List Char} (numeral : Numeral spelling) : Spells (.number spelling) spelling
  | string {name : List Glyph} {text : List Char} (spelled : SpellsString name text) :
      Spells (.string name) text
  | array {items : List Json} {text : List Char} (spelled : SpellsItems items text) :
      Spells (.array items) ('[' :: text ++ [']'])
  | object {members : List (List Glyph × Json)} {text : List Char}
      (spelled : SpellsMembers members text) : Spells (.object members) ('{' :: text ++ ['}'])

inductive SpellsItems : List Json → List Char → Prop where
  | none {text : List Char} (blank : Blanks text) : SpellsItems [] text
  | last {item : Json} {text : List Char} (spelled : Spells item text) : SpellsItems [item] text
  | more {item next : Json} {items : List Json} {text texts : List Char}
      (spelled : Spells item text) (rest : SpellsItems (next :: items) texts) :
      SpellsItems (item :: next :: items) (text ++ ',' :: texts)

inductive SpellsMember : List Glyph × Json → List Char → Prop where
  | named {name : List Glyph} {value : Json} {before text after texts : List Char}
      (first : Blanks before) (called : SpellsString name text) (last : Blanks after)
      (spelled : Spells value texts) :
      SpellsMember (name, value) (before ++ text ++ after ++ ':' :: texts)

inductive SpellsMembers : List (List Glyph × Json) → List Char → Prop where
  | none {text : List Char} (blank : Blanks text) : SpellsMembers [] text
  | last {member : List Glyph × Json} {text : List Char} (spelled : SpellsMember member text) :
      SpellsMembers [member] text
  | more {member next : List Glyph × Json} {members : List (List Glyph × Json)}
      {text texts : List Char} (spelled : SpellsMember member text)
      (rest : SpellsMembers (next :: members) texts) :
      SpellsMembers (member :: next :: members) (text ++ ',' :: texts)

end

theorem Spells.behind {value : Json} {before text : List Char} (spelled : Spells value text)
    (blank : Blanks before) : Spells value (before ++ text) := by
  have padded := Spells.padded blank spelled blanks_nil
  rwa [List.append_nil] at padded

/-- Blanks around a member are those around its name and around its value. -/
theorem SpellsMember.padded {member : List Glyph × Json} {before text after : List Char}
    (spelled : SpellsMember member text) (first : Blanks before) (last : Blanks after) :
    SpellsMember member (before ++ text ++ after) := by
  cases spelled with
  | named opened called closed value =>
    have padded := SpellsMember.named (first.append opened) called closed
      (.padded blanks_nil value last)
    simpa using padded

end RegisterMachine.Json

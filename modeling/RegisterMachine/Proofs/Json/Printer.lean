import RegisterMachine.Json.Printer
import RegisterMachine.Proofs.Json.Value
import RegisterMachine.Proofs.Text.Numeral

/-! # Printed values are spelled

What a layout prints spells the value that was printed (`spells_print`), so that a plain value is parsed
from its pretty text (`parse?_pretty`).

A value is plain if it is built from what programs write: strings of characters, and numbers that are
natural numbers in decimal.
-/

namespace RegisterMachine.Json

open Text

/-! ## Plain values -/

inductive Plain : Json → Prop where
  | null : Plain .null
  | bool (value : Bool) : Plain (.bool value)
  | number (n : Nat) : Plain (ofNat n)
  | string (text : List Char) : Plain (.string (text.map .char))
  | array {items : List Json} (each : ∀ item ∈ items, Plain item) : Plain (.array items)
  | object {members : List (List Glyph × Json)}
      (named : ∀ member ∈ members, ∃ name : List Char, member.1 = name.map .char)
      (each : ∀ member ∈ members, Plain member.2) : Plain (.object members)

/-! ## Strings -/

/-- The characters that are escaped by a letter. -/
def letters : List (Char × Char) :=
  [('"', '"'), ('\\', '\\'), (Char.ofNat 8, 'b'), (Char.ofNat 12, 'f'), ('\n', 'n'), ('\r', 'r'),
    ('\t', 't')]

/-- The piece that a printed character is read as. -/
def pieceOf (c : Char) : Piece :=
  if c ∈ letters.map (·.1) ∨ 32 ≤ c.toNat then .char c else .escape c.toNat

theorem escapeChar_letter : ∀ pair ∈ letters,
    escapeChar pair.1 = ['\\', pair.2] ∧ (pair.2, pair.1) ∈ shortEscapes ∧
      pieceOf pair.1 = .char pair.1 := by
  decide

theorem escapeChar_other {c : Char} (other : c ∉ letters.map (·.1)) :
    escapeChar c =
      if c.toNat < 32 then "\\u".toList ++ (padLeft 4 '0' (hexDigits c.toNat)).toList else [c] := by
  simp only [letters, List.map_cons, List.map_nil, List.mem_cons, List.not_mem_nil, or_false,
    not_or] at other
  simp only [escapeChar, other, if_false]

/-- The number of a control character has at most two digits behind two zeros. -/
theorem spellsPiece_control {n : Nat} (control : n < 32) :
    SpellsPiece (.escape n) ("\\u".toList ++ (padLeft 4 '0' (hexDigits n)).toList) := by
  have digits : ∀ n : Fin 32, List.replicate (4 - (Nat.toDigits 16 n.val).length) '0' ++
      Nat.toDigits 16 n.val = ['0', '0', (n.val / 16).digitChar, (n.val % 16).digitChar] := by
    decide
  have text : "\\u".toList ++ (padLeft 4 '0' (hexDigits n)).toList =
      ['\\', 'u', '0', '0', (n / 16).digitChar, (n % 16).digitChar] := by
    simp [padLeft, hexDigits, ← digits ⟨n, control⟩]
  have value : ((0 * 16 + 0) * 16 + n / 16) * 16 + n % 16 = n := by
    omega
  have zero : HexDigit 0 '0' := ⟨by decide, .inl rfl⟩
  have high : HexDigit (n / 16) (n / 16).digitChar := ⟨by omega, .inl rfl⟩
  have low : HexDigit (n % 16) (n % 16).digitChar := ⟨by omega, .inl rfl⟩
  have spelled := SpellsPiece.numeric zero zero high low
  rwa [value, ← text] at spelled

theorem spellsPiece_escapeChar (c : Char) : SpellsPiece (pieceOf c) (escapeChar c) := by
  by_cases listed : c ∈ letters.map (·.1)
  · obtain ⟨⟨c, letter⟩, member, rfl⟩ := List.mem_map.1 listed
    obtain ⟨escaped, named, piece⟩ := escapeChar_letter _ member
    rw [escaped, piece]
    exact .short named
  rw [escapeChar_other listed]
  by_cases control : c.toNat < 32
  · have piece : pieceOf c = .escape c.toNat :=
      if_neg (not_or.2 ⟨listed, Nat.not_le.2 control⟩)
    rw [if_pos control, piece]
    exact spellsPiece_control control
  · have printable : 32 ≤ c.toNat := Nat.le_of_not_lt control
    have piece : pieceOf c = .char c := if_pos (.inr printable)
    have notQuote : c ≠ '"' := fun equal => listed (equal ▸ by decide)
    have notBackslash : c ≠ '\\' := fun equal => listed (equal ▸ by decide)
    rw [if_neg control, piece]
    exact .plain printable notQuote notBackslash

theorem spellsPieces_escaped (text : List Char) :
    SpellsPieces (text.map pieceOf) (text.flatMap escapeChar) := by
  induction text with
  | nil => exact .nil
  | cons c text inductionHypothesis =>
    rw [List.map_cons, List.flatMap_cons]
    exact .cons (spellsPiece_escapeChar c) inductionHypothesis

/-- A control character is no surrogate, so its number has no part in a pair. -/
theorem glyphs_control {n : Nat} (control : n < 32) (pieces : List Piece) :
    glyphs (.escape n :: pieces) = .char (Char.ofNat n) :: glyphs pieces := by
  have notHigh : isHighSurrogate n = false := by
    simp [isHighSurrogate]
    omega
  have notLow : isLowSurrogate n = false := by
    simp [isLowSurrogate]
    omega
  have single : singleGlyph n = .char (Char.ofNat n) := by
    simp [singleGlyph, notHigh, notLow]
  match pieces with
  | [] => simp [glyphs, single]
  | .char c :: rest => simp [glyphs, single]
  | .escape low :: rest => simp [glyphs, single, notHigh]

theorem glyphs_pieceOf (text : List Char) : glyphs (text.map pieceOf) = text.map .char := by
  induction text with
  | nil => rfl
  | cons c text inductionHypothesis =>
    rw [List.map_cons, List.map_cons, ← inductionHypothesis, pieceOf]
    split
    · rw [glyphs]
    · rename_i notPlain
      have control : c.toNat < 32 := Nat.lt_of_not_le (not_or.1 notPlain).2
      rw [glyphs_control control, Char.ofNat_toNat]

theorem spellsString_print (text : List Char) :
    SpellsString (text.map .char) (printString (text.map .char)) := by
  have spelled := SpellsString.quoted (spellsPieces_escaped text)
  rw [glyphs_pieceOf] at spelled
  simpa [printString, List.flatMap_map, escapeGlyph] using spelled

/-! ## Numbers -/

/-- A numeral is zero, or does not begin with one. -/
theorem head_decimal {n : Nat} (positive : 0 < n) :
    ∃ c digits, Nat.toDigits 10 n = c :: digits ∧ c ≠ '0' := by
  induction n using Nat.strongRecOn with
  | ind n inductionHypothesis =>
    by_cases single : n < 10
    · have nonzero : ∀ n : Fin 10, 0 < n.val → n.val.digitChar ≠ '0' := by decide
      exact ⟨_, [], Nat.toDigits_of_lt_base single, nonzero ⟨n, single⟩ positive⟩
    · obtain ⟨c, digits, earlier, first⟩ := inductionHypothesis (n / 10) (by omega) (by omega)
      refine ⟨c, digits ++ [(n % 10).digitChar], ?_, first⟩
      rw [Nat.toDigits_of_base_le (by decide) (by omega), earlier, List.cons_append]

theorem numeral_decimal (n : Nat) : Numeral (Nat.toDigits 10 n) := by
  have whole : Whole (Nat.toDigits 10 n) := by
    rcases Nat.eq_zero_or_pos n with zero | positive
    · rw [zero, Nat.toDigits_zero]
      exact .zero
    · obtain ⟨c, digits, spelled, first⟩ := head_decimal positive
      rw [spelled]
      refine .positive first ⟨nofun, fun c member => ?_⟩
      rw [← spelled] at member
      exact Nat.isDigit_of_mem_toDigits (by decide) (by decide) member
  have spelled := Numeral.unsigned whole .absent .absent
  rwa [List.append_nil, List.append_nil] at spelled

/-! ## Layouts -/

structure Layout.Blank (layout : Layout) : Prop where
  newline (level : Nat) : Blanks (layout.newline level)
  afterColon : Blanks layout.afterColon

theorem Layout.blank_pretty : Layout.pretty.Blank where
  newline level c member := by
    rcases List.mem_cons.1 member with rfl | member
    · decide
    · rw [List.eq_of_mem_replicate member]
      decide
  afterColon c member := by
    rw [List.mem_singleton.1 member]
    decide

section Printing

variable {layout : Layout} (blank : layout.Blank)

include blank

/-- The blanks in front of an item belong to it, and those in front of the closing mark to the last
one. -/
theorem spellsItems_print (level : Nat) {text closing : List Char} (closed : Blanks closing)
    {item : Json} {items : List Json} (first : Spells item text)
    (each : ∀ item ∈ items, Spells item (print layout level item)) :
    SpellsItems (item :: items) (text ++ printItems layout level items ++ closing) := by
  induction items generalizing item text with
  | nil =>
    rw [printItems, List.append_nil]
    exact .last (.padded blanks_nil first closed)
  | cons next items inductionHypothesis =>
    have second := (each next List.mem_cons_self).behind (blank.newline level)
    have others := inductionHypothesis second fun item member => each item (List.mem_cons_of_mem _ member)
    simpa [printItems] using SpellsItems.more first others

theorem spellsMember_print (level : Nat) {member : List Glyph × Json}
    (named : ∃ name : List Char, member.1 = name.map .char)
    (spelled : Spells member.2 (print layout level member.2)) :
    SpellsMember member (printMember layout level member) := by
  obtain ⟨glyphs, value⟩ := member
  obtain ⟨name, rfl⟩ := named
  have value := spelled.behind blank.afterColon
  simpa [printMember] using SpellsMember.named blanks_nil (spellsString_print name) blanks_nil value

theorem spellsMembers_print (level : Nat) {text closing : List Char} (closed : Blanks closing)
    {member : List Glyph × Json} {members : List (List Glyph × Json)}
    (first : SpellsMember member text)
    (each : ∀ member ∈ members, SpellsMember member (printMember layout level member)) :
    SpellsMembers (member :: members) (text ++ printMembers layout level members ++ closing) := by
  induction members generalizing member text with
  | nil =>
    rw [printMembers, List.append_nil]
    simpa using SpellsMembers.last (first.padded blanks_nil closed)
  | cons next members inductionHypothesis =>
    have second := (each next List.mem_cons_self).padded (blank.newline level) blanks_nil
    have others := inductionHypothesis second fun member inside =>
      each member (List.mem_cons_of_mem _ inside)
    simpa [printMembers] using SpellsMembers.more first others

theorem spells_print {value : Json} (plain : Plain value) (level : Nat) :
    Spells value (print layout level value) := by
  induction plain generalizing level with
  | null => exact .null
  | bool value =>
    cases value with
    | true => exact .true
    | false => exact .false
  | number n =>
    rw [ofNat, print, decimal, String.toList_ofList]
    exact .number (numeral_decimal n)
  | string text => exact .string (spellsString_print text)
  | @array items each inductionHypothesis =>
    cases items with
    | nil => exact .array (.none blanks_nil)
    | cons item items =>
      have first := (inductionHypothesis item List.mem_cons_self (level + 1)).behind
        (blank.newline (level + 1))
      have listed := spellsItems_print blank (level + 1) (blank.newline level) first fun item member =>
        inductionHypothesis item (List.mem_cons_of_mem _ member) (level + 1)
      simpa [print] using Spells.array listed
  | @object members named each inductionHypothesis =>
    have spelled : ∀ member ∈ members,
        SpellsMember member (printMember layout (level + 1) member) := fun member inside =>
      spellsMember_print blank (level + 1) (named member inside)
        (inductionHypothesis member inside (level + 1))
    cases members with
    | nil => exact .object (.none blanks_nil)
    | cons member members =>
      have first := (spelled member List.mem_cons_self).padded (blank.newline (level + 1)) blanks_nil
      have listed := spellsMembers_print blank (level + 1) (blank.newline level) first
        fun member inside => spelled member (List.mem_cons_of_mem _ inside)
      simpa [print] using Spells.object listed

end Printing

theorem spells_pretty {value : Json} (plain : Plain value) : Spells value value.pretty.toList := by
  rw [pretty, String.toList_ofList]
  exact spells_print Layout.blank_pretty plain 0

/-- A plain value is read back from its pretty text. -/
theorem parse?_pretty {value : Json} (plain : Plain value) : parse? value.pretty = some value :=
  parse?_of_spells (spells_pretty plain)

end RegisterMachine.Json

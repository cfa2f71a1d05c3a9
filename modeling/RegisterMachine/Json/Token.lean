/-! # JSON tokens

The words of a JSON text: marks, literals, numbers and strings. The rules are the strict ones: blanks
are space, tab, line feed and carriage return only, numbers have no leading zeros and no bare points,
strings have no raw control characters and only the known escapes.

Numbers keep their spelling. Strings keep an escaped surrogate that has no partner, since a reader may
not care about a text it skips.
-/

namespace RegisterMachine.Json

inductive Glyph where
  | char (c : Char)
  /-- An escaped surrogate without its partner. -/
  | lone (unit : Nat)
deriving DecidableEq, Repr

inductive Token where
  | openBrace | closeBrace | openBracket | closeBracket | comma | colon
  | null
  | bool (value : Bool)
  | number (spelling : List Char)
  | string (text : List Glyph)
deriving DecidableEq, Repr

def isSpace (c : Char) : Bool :=
  c == ' ' || c == '\t' || c == '\n' || c == '\r'

/-! ## Strings -/

/-- What stands in a string: a character, or the number in a numeric escape. -/
inductive Piece where
  | char (c : Char)
  | escape (unit : Nat)
deriving DecidableEq, Repr

def hexValue? (c : Char) : Option Nat :=
  if '0' ≤ c ∧ c ≤ '9' then some (c.toNat - '0'.toNat)
  else if 'a' ≤ c ∧ c ≤ 'f' then some (c.toNat - 'a'.toNat + 10)
  else if 'A' ≤ c ∧ c ≤ 'F' then some (c.toNat - 'A'.toNat + 10)
  else none

def hexUnit? (a b c d : Char) : Option Nat := do
  let a ← hexValue? a
  let b ← hexValue? b
  let c ← hexValue? c
  let d ← hexValue? d
  return ((a * 16 + b) * 16 + c) * 16 + d

def shortEscape? (c : Char) : Option Char :=
  match c with
  | '"' => some '"'
  | '\\' => some '\\'
  | '/' => some '/'
  | 'b' => some (Char.ofNat 8)
  | 'f' => some (Char.ofNat 12)
  | 'n' => some '\n'
  | 'r' => some '\r'
  | 't' => some '\t'
  | _ => none

/-- Reads a string behind its opening quote; answers its pieces and what follows the closing quote. -/
def scanString : List Char → Option (List Piece × List Char)
  | [] => none
  | '"' :: rest => some ([], rest)
  | '\\' :: 'u' :: a :: b :: c :: d :: rest =>
    match hexUnit? a b c d, scanString rest with
    | some unit, some (pieces, rest) => some (.escape unit :: pieces, rest)
    | _, _ => none
  | '\\' :: c :: rest =>
    match shortEscape? c, scanString rest with
    | some c, some (pieces, rest) => some (.char c :: pieces, rest)
    | _, _ => none
  | c :: rest =>
    if c.toNat < 32 || c == '\\' then none
    else
      match scanString rest with
      | some (pieces, rest) => some (.char c :: pieces, rest)
      | none => none

def isHighSurrogate (unit : Nat) : Bool :=
  0xd800 ≤ unit && unit < 0xdc00

def isLowSurrogate (unit : Nat) : Bool :=
  0xdc00 ≤ unit && unit < 0xe000

def pairChar (high low : Nat) : Char :=
  Char.ofNat (0x10000 + (high - 0xd800) * 0x400 + (low - 0xdc00))

/-- A numeric escape that is no part of a pair. -/
def singleGlyph (unit : Nat) : Glyph :=
  if isHighSurrogate unit || isLowSurrogate unit then .lone unit else .char (Char.ofNat unit)

/-- Joins the surrogate pairs among the pieces. -/
def glyphs : List Piece → List Glyph
  | [] => []
  | .char c :: rest => .char c :: glyphs rest
  | [.escape unit] => [singleGlyph unit]
  | .escape high :: .escape low :: rest =>
    if isHighSurrogate high && isLowSurrogate low then .char (pairChar high low) :: glyphs rest
    else singleGlyph high :: glyphs (.escape low :: rest)
  | .escape unit :: .char c :: rest => singleGlyph unit :: .char c :: glyphs rest

/-! ## Numbers -/

/-- Reads a whole number without sign. -/
def scanWhole : List Char → Option (List Char × List Char)
  | [] => none
  | c :: rest =>
    if c = '0' then some ([c], rest)
    else if c.isDigit then some (c :: rest.takeWhile Char.isDigit, rest.dropWhile Char.isDigit)
    else none

def scanDigits (text : List Char) : Option (List Char × List Char) :=
  match text.takeWhile Char.isDigit with
  | [] => none
  | digits => some (digits, text.dropWhile Char.isDigit)

/-- Reads the fraction of a number, which may be missing. -/
def scanFraction : List Char → Option (List Char × List Char)
  | '.' :: rest => (scanDigits rest).map fun (digits, rest) => ('.' :: digits, rest)
  | text => some ([], text)

/-- Reads the digits of an exponent behind its sign, which may be missing. -/
def scanExponentDigits : List Char → Option (List Char × List Char)
  | '+' :: rest => (scanDigits rest).map fun (digits, rest) => ('+' :: digits, rest)
  | '-' :: rest => (scanDigits rest).map fun (digits, rest) => ('-' :: digits, rest)
  | text => scanDigits text

/-- Reads the exponent of a number, which may be missing. -/
def scanExponent : List Char → Option (List Char × List Char)
  | 'e' :: rest => (scanExponentDigits rest).map fun (digits, rest) => ('e' :: digits, rest)
  | 'E' :: rest => (scanExponentDigits rest).map fun (digits, rest) => ('E' :: digits, rest)
  | text => some ([], text)

def scanUnsigned (text : List Char) : Option (List Char × List Char) :=
  match scanWhole text with
  | none => none
  | some (whole, text) =>
    match scanFraction text with
    | none => none
    | some (fraction, text) =>
      match scanExponent text with
      | none => none
      | some (exponent, text) => some (whole ++ fraction ++ exponent, text)

def scanNumber : List Char → Option (List Char × List Char)
  | '-' :: rest => (scanUnsigned rest).map fun (spelling, rest) => ('-' :: spelling, rest)
  | text => scanUnsigned text

/-! ## Tokens -/

def scanToken : List Char → Option (Token × List Char)
  | '{' :: rest => some (.openBrace, rest)
  | '}' :: rest => some (.closeBrace, rest)
  | '[' :: rest => some (.openBracket, rest)
  | ']' :: rest => some (.closeBracket, rest)
  | ',' :: rest => some (.comma, rest)
  | ':' :: rest => some (.colon, rest)
  | 'n' :: 'u' :: 'l' :: 'l' :: rest => some (.null, rest)
  | 't' :: 'r' :: 'u' :: 'e' :: rest => some (.bool true, rest)
  | 'f' :: 'a' :: 'l' :: 's' :: 'e' :: rest => some (.bool false, rest)
  | '"' :: rest => (scanString rest).map fun (pieces, rest) => (.string (glyphs pieces), rest)
  | text => (scanNumber text).map fun (spelling, rest) => (.number spelling, rest)

/-! ## Progress

Every token takes at least one character, so reading tokens one after the other comes to an end. -/

theorem length_scanString {text rest : List Char} {pieces : List Piece}
    (h : scanString text = some (pieces, rest)) : rest.length < text.length := by
  fun_induction scanString text generalizing pieces rest with
  | case1 => cases h
  | case2 => cases h; simp
  | case3 a b c d text unit pieces' rest' hrest hunit ih =>
    cases h
    have := ih hrest
    simp only [List.length_cons]; omega
  | case4 => cases h
  | case5 c text _ c' pieces' rest' hrest hc ih =>
    cases h
    have := ih hrest
    simp only [List.length_cons]; omega
  | case6 => cases h
  | case7 => cases h
  | case8 c text _ _ _ _ pieces' rest' hrest ih =>
    cases h
    have := ih hrest
    simp only [List.length_cons]; omega
  | case9 => cases h

theorem length_dropDigits (text : List Char) :
    (text.dropWhile Char.isDigit).length ≤ text.length :=
  (List.dropWhile_sublist _).length_le

theorem length_scanWhole {text rest digits : List Char}
    (h : scanWhole text = some (digits, rest)) : rest.length < text.length := by
  unfold scanWhole at h
  split at h
  · cases h
  · rename_i c text
    split at h
    · cases h; simp
    · split at h
      · cases h
        have := length_dropDigits text
        simp only [List.length_cons]; omega
      · cases h

theorem length_scanDigits {text rest digits : List Char}
    (h : scanDigits text = some (digits, rest)) : rest.length ≤ text.length := by
  unfold scanDigits at h
  split at h
  · cases h
  · cases h
    exact length_dropDigits text

theorem length_scanFraction {text rest digits : List Char}
    (h : scanFraction text = some (digits, rest)) : rest.length ≤ text.length := by
  unfold scanFraction at h
  split at h
  · obtain ⟨⟨digits, rest⟩, hdigits, heq⟩ := Option.map_eq_some_iff.1 h
    cases heq
    exact Nat.le_succ_of_le (length_scanDigits hdigits)
  · cases h
    exact Nat.le_refl _

theorem length_scanExponentDigits {text rest digits : List Char}
    (h : scanExponentDigits text = some (digits, rest)) : rest.length ≤ text.length := by
  unfold scanExponentDigits at h
  split at h
  · obtain ⟨⟨digits, rest⟩, hdigits, heq⟩ := Option.map_eq_some_iff.1 h
    cases heq
    exact Nat.le_succ_of_le (length_scanDigits hdigits)
  · obtain ⟨⟨digits, rest⟩, hdigits, heq⟩ := Option.map_eq_some_iff.1 h
    cases heq
    exact Nat.le_succ_of_le (length_scanDigits hdigits)
  · exact length_scanDigits h

theorem length_scanExponent {text rest digits : List Char}
    (h : scanExponent text = some (digits, rest)) : rest.length ≤ text.length := by
  unfold scanExponent at h
  split at h
  · obtain ⟨⟨digits, rest⟩, hdigits, heq⟩ := Option.map_eq_some_iff.1 h
    cases heq
    exact Nat.le_succ_of_le (length_scanExponentDigits hdigits)
  · obtain ⟨⟨digits, rest⟩, hdigits, heq⟩ := Option.map_eq_some_iff.1 h
    cases heq
    exact Nat.le_succ_of_le (length_scanExponentDigits hdigits)
  · cases h
    exact Nat.le_refl _

theorem length_scanUnsigned {text rest spelling : List Char}
    (h : scanUnsigned text = some (spelling, rest)) : rest.length < text.length := by
  unfold scanUnsigned at h
  split at h
  · cases h
  · rename_i hwhole
    split at h
    · cases h
    · rename_i hfraction
      split at h
      · cases h
      · rename_i hexponent
        cases h
        have := length_scanWhole hwhole
        have := length_scanFraction hfraction
        have := length_scanExponent hexponent
        omega

theorem length_scanNumber {text rest spelling : List Char}
    (h : scanNumber text = some (spelling, rest)) : rest.length < text.length := by
  unfold scanNumber at h
  split at h
  · obtain ⟨⟨spelling, rest⟩, hspelling, heq⟩ := Option.map_eq_some_iff.1 h
    cases heq
    exact Nat.lt_succ_of_lt (length_scanUnsigned hspelling)
  · exact length_scanUnsigned h

theorem length_scanToken {text rest : List Char} {token : Token}
    (h : scanToken text = some (token, rest)) : rest.length < text.length := by
  unfold scanToken at h
  split at h
  case h_10 =>
    obtain ⟨⟨pieces, rest⟩, hpieces, heq⟩ := Option.map_eq_some_iff.1 h
    cases heq
    exact Nat.lt_succ_of_lt (length_scanString hpieces)
  case h_11 =>
    obtain ⟨⟨spelling, rest⟩, hspelling, heq⟩ := Option.map_eq_some_iff.1 h
    cases heq
    exact length_scanNumber hspelling
  all_goals
    cases h
    simp only [List.length_cons]
    omega

def tokens (text : List Char) : Option (List Token) :=
  match text with
  | [] => some []
  | c :: rest =>
    if isSpace c then tokens rest
    else
      match _hscan : scanToken (c :: rest) with
      | none => none
      | some (token, rest) => (tokens rest).map (token :: ·)
termination_by text.length
decreasing_by
  · simp
  · exact length_scanToken _hscan

end RegisterMachine.Json

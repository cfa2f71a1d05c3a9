import RegisterMachine.Proofs.Json.Token

/-! # Reading spelled values

A text that spells a value is read in two steps. Its tokens are those of the value, whatever blanks
stand between them (`Spells.scans`), and from the tokens of a value the parser reads the value
(`readsBack`). So the parser reads every value from each of its texts (`parse?_of_spells`).
-/

namespace RegisterMachine.Json

open Text

/-! ## The tokens of a value -/

mutual

def tokensOf : Json → List Token
  | .null => [.null]
  | .bool value => [.bool value]
  | .number spelling => [.number spelling]
  | .string text => [.string text]
  | .array [] => [.openBracket, .closeBracket]
  | .array (item :: items) => .openBracket :: tokensOf item ++ tokensOfItems items ++ [.closeBracket]
  | .object [] => [.openBrace, .closeBrace]
  | .object (member :: members) =>
    .openBrace :: tokensOfMember member ++ tokensOfMembers members ++ [.closeBrace]

def tokensOfItems : List Json → List Token
  | [] => []
  | item :: items => .comma :: tokensOf item ++ tokensOfItems items

def tokensOfMember : List Glyph × Json → List Token
  | (name, value) => .string name :: .colon :: tokensOf value

def tokensOfMembers : List (List Glyph × Json) → List Token
  | [] => []
  | member :: members => .comma :: tokensOfMember member ++ tokensOfMembers members

end

def tokensOfList : List Json → List Token
  | [] => []
  | item :: items => tokensOf item ++ tokensOfItems items

def tokensOfRecord : List (List Glyph × Json) → List Token
  | [] => []
  | member :: members => tokensOfMember member ++ tokensOfMembers members

theorem tokensOf_array (items : List Json) :
    tokensOf (.array items) = .openBracket :: (tokensOfList items ++ [.closeBracket]) := by
  cases items <;> simp [tokensOf, tokensOfList]

theorem tokensOf_object (members : List (List Glyph × Json)) :
    tokensOf (.object members) = .openBrace :: (tokensOfRecord members ++ [.closeBrace]) := by
  cases members <;> simp [tokensOf, tokensOfRecord]

/-! ## Scanning -/

/-- A text in front of anything that does not go on with a number has certain tokens. -/
def ScansAs (text : List Char) (expected : List Token) : Prop :=
  ∀ rest : List Char, Delimits rest → tokens (text ++ rest) = (tokens rest).map (expected ++ ·)

namespace ScansAs

variable {text texts : List Char} {expected others : List Token}

theorem blanks (blank : Blanks text) : ScansAs text [] := by
  intro rest delimited
  rw [tokens_blanks blank]
  simp

theorem token {c : Char} {token : Token} (solid : isSpace c = false)
    (scanned : ∀ rest, scanToken (c :: text ++ rest) = some (token, rest)) :
    ScansAs (c :: text) [token] := by
  intro rest _
  exact tokens_token solid (scanned rest)

theorem string {name : List Glyph} (spelled : SpellsString name text) :
    ScansAs text [.string name] := by
  intro rest _
  exact tokens_string spelled rest

theorem padded {before after : List Char} (first : Blanks before) (scans : ScansAs text expected)
    (last : Blanks after) : ScansAs (before ++ text ++ after) expected := by
  intro rest delimited
  rw [List.append_assoc, List.append_assoc, tokens_blanks first, scans _ (delimits_blanks last delimited),
    tokens_blanks last]

/-- A mark ends what stands in front of it, and what stands behind it begins anew. -/
theorem mark {c : Char} {token : Token} (scans : ScansAs text expected)
    (other : c.isDigit = false ∧ c ≠ '.' ∧ c ≠ 'e' ∧ c ≠ 'E') (solid : isSpace c = false)
    (scanned : ∀ rest, scanToken (c :: rest) = some (token, rest)) (behind : ScansAs texts others) :
    ScansAs (text ++ c :: texts) (expected ++ token :: others) := by
  intro rest delimited
  rw [List.append_assoc, List.cons_append, scans _ (delimits_cons other _),
    tokens_token solid (scanned _), behind _ delimited]
  simp [Function.comp_def]

end ScansAs

mutual

theorem Spells.scans : ∀ {value : Json} {text : List Char}, Spells value text →
    ScansAs text (tokensOf value)
  | _, _, .padded first spelled last => .padded first spelled.scans last
  | _, _, .null => .token (by decide) fun _ => rfl
  | _, _, .true => .token (by decide) fun _ => rfl
  | _, _, .false => .token (by decide) fun _ => rfl
  | _, _, .number numeral => fun _ => tokens_number numeral
  | _, _, .string spelled => .string spelled
  | _, _, .array spelled => by
    rw [tokensOf_array]
    have inside := ScansAs.mark spelled.scans (c := ']') (by decide) (by decide) (fun _ => rfl)
      (.blanks blanks_nil)
    exact ScansAs.mark (.blanks blanks_nil) (by decide) (by decide) (fun _ => rfl) inside
  | _, _, .object spelled => by
    rw [tokensOf_object]
    have inside := ScansAs.mark spelled.scans (c := '}') (by decide) (by decide) (fun _ => rfl)
      (.blanks blanks_nil)
    exact ScansAs.mark (.blanks blanks_nil) (by decide) (by decide) (fun _ => rfl) inside

theorem SpellsItems.scans : ∀ {items : List Json} {text : List Char}, SpellsItems items text →
    ScansAs text (tokensOfList items)
  | _, _, .none blank => .blanks blank
  | _, _, .last spelled => by
    simpa [tokensOfList, tokensOfItems] using spelled.scans
  | _, _, .more spelled rest => by
    have scans := ScansAs.mark spelled.scans (c := ',') (by decide) (by decide) (fun _ => rfl) rest.scans
    simpa [tokensOfList, tokensOfItems] using scans

theorem SpellsMember.scans : ∀ {member : List Glyph × Json} {text : List Char},
    SpellsMember member text → ScansAs text (tokensOfMember member)
  | _, _, .named first called last spelled => by
    have name := ScansAs.padded first (.string called) last
    exact ScansAs.mark name (by decide) (by decide) (fun _ => rfl) spelled.scans

theorem SpellsMembers.scans : ∀ {members : List (List Glyph × Json)} {text : List Char},
    SpellsMembers members text → ScansAs text (tokensOfRecord members)
  | _, _, .none blank => .blanks blank
  | _, _, .last spelled => by
    simpa [tokensOfRecord, tokensOfMembers] using spelled.scans
  | _, _, .more spelled rest => by
    have scans := ScansAs.mark spelled.scans (c := ',') (by decide) (by decide) (fun _ => rfl) rest.scans
    simpa [tokensOfRecord, tokensOfMembers] using scans

end

/-! ## Parsing -/

theorem readValue_openBracket {fuel : Nat} (item : Json) (rest : List Token) :
    readValue (fuel + 1) (.openBracket :: (tokensOf item ++ rest)) =
      (readItems fuel (tokensOf item ++ rest)).map fun (items, rest) => (.array items, rest) := by
  -- The tokens of a value do not begin with a closing bracket.
  match item with
  | .null | .bool value | .number spelling | .string text => rfl
  | .array [] | .array (item :: items) | .object [] | .object (member :: members) => rfl

theorem readValue_openBrace {fuel : Nat} (member : List Glyph × Json) (rest : List Token) :
    readValue (fuel + 1) (.openBrace :: (tokensOfMember member ++ rest)) =
      (readMembers fuel (tokensOfMember member ++ rest)).map
        fun (members, rest) => (.object members, rest) := by
  cases member
  rfl

theorem length_tokensOf_pos (value : Json) : 0 < (tokensOf value).length := by
  match value with
  | .null | .bool value | .number spelling | .string text => exact Nat.one_pos
  | .array [] | .object [] => exact Nat.two_pos
  | .array (item :: items) => simp [tokensOf]
  | .object (member :: members) => simp [tokensOf]

/-- This much fuel is enough for values, and for lists of items and members, with so many tokens. -/
structure ReadsBack (fuel : Nat) : Prop where
  value (value : Json) (rest : List Token) (enough : 2 * (tokensOf value).length ≤ fuel) :
    readValue fuel (tokensOf value ++ rest) = some (value, rest)
  items (item : Json) (items : List Json) (rest : List Token)
    (enough : 2 * ((tokensOf item).length + (tokensOfItems items).length) + 1 ≤ fuel) :
    readItems fuel (tokensOf item ++ (tokensOfItems items ++ .closeBracket :: rest)) =
      some (item :: items, rest)
  members (member : List Glyph × Json) (members : List (List Glyph × Json)) (rest : List Token)
    (enough : 2 * ((tokensOfMember member).length + (tokensOfMembers members).length) + 1 ≤ fuel) :
    readMembers fuel (tokensOfMember member ++ (tokensOfMembers members ++ .closeBrace :: rest)) =
      some (member :: members, rest)

theorem readsBack_zero : ReadsBack 0 where
  value value rest enough := by
    have positive := length_tokensOf_pos value
    omega
  items item items rest enough := by omega
  members member members rest enough := by omega

-- Each comma and each opening mark pays for the two calls that follow it.
theorem readsBack_succ {fuel : Nat} (less : ReadsBack fuel) : ReadsBack (fuel + 1) where
  value value rest enough := by
    match value with
    | .null | .bool value | .number spelling | .string text | .array [] | .object [] => rfl
    | .array (item :: items) =>
      simp only [tokensOf, List.length_cons, List.length_append] at enough
      simp only [tokensOf, List.cons_append, List.append_assoc, List.nil_append,
        readValue_openBracket]
      rw [less.items item items rest (by omega)]
      rfl
    | .object (member :: members) =>
      simp only [tokensOf, List.length_cons, List.length_append] at enough
      simp only [tokensOf, List.cons_append, List.append_assoc, List.nil_append,
        readValue_openBrace]
      rw [less.members member members rest (by omega)]
      rfl
  items item items rest enough := by
    rw [readItems, less.value item _ (by omega)]
    match items with
    | [] => rfl
    | next :: items =>
      simp only [tokensOfItems, List.length_cons, List.length_append] at enough
      simp only [tokensOfItems, List.cons_append, List.append_assoc]
      rw [less.items next items rest (by omega)]
      rfl
  members member members rest enough := by
    obtain ⟨name, value⟩ := member
    simp only [tokensOfMember, List.length_cons] at enough
    simp only [tokensOfMember, List.cons_append, readMembers]
    rw [less.value value _ (by omega)]
    match members with
    | [] => rfl
    | next :: members =>
      simp only [tokensOfMembers, List.length_cons, List.length_append] at enough
      simp only [tokensOfMembers, List.cons_append, List.append_assoc]
      rw [less.members next members rest (by omega)]
      rfl

theorem readsBack (fuel : Nat) : ReadsBack fuel := by
  induction fuel with
  | zero => exact readsBack_zero
  | succ fuel inductionHypothesis => exact readsBack_succ inductionHypothesis

/-- Every text that spells a value is read as that value. -/
theorem parse?_of_spells {value : Json} {text : String} (spelled : Spells value text.toList) :
    parse? text = some value := by
  have scanned : tokens text.toList = some (tokensOf value) := by
    have answer := spelled.scans [] delimits_nil
    rw [List.append_nil] at answer
    rw [answer, tokens]
    simp
  have read := (readsBack (2 * (tokensOf value).length)).value value [] (Nat.le_refl _)
  rw [List.append_nil] at read
  simp only [parse?, scanned, read]

end RegisterMachine.Json

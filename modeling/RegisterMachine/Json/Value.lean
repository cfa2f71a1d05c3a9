import RegisterMachine.Json.Token
import RegisterMachine.Text.Integer

/-! # JSON values

The tree of a JSON text. Members keep their order and may repeat a name; what a name means and whether
it may be repeated is for the reader of the tree to say.
-/

namespace RegisterMachine

inductive Json where
  | null
  | bool (value : Bool)
  | number (spelling : List Char)
  | string (text : List Json.Glyph)
  | array (items : List Json)
  | object (members : List (List Json.Glyph × Json))

namespace Json

/-! ## Parsing -/

mutual

/-- Reads a value. Two units of fuel for each token are enough. -/
def readValue : Nat → List Token → Option (Json × List Token)
  | 0, _ => none
  | fuel + 1, tokens =>
    match tokens with
    | .null :: rest => some (.null, rest)
    | .bool value :: rest => some (.bool value, rest)
    | .number spelling :: rest => some (.number spelling, rest)
    | .string text :: rest => some (.string text, rest)
    | .openBracket :: .closeBracket :: rest => some (.array [], rest)
    | .openBracket :: rest => (readItems fuel rest).map fun (items, rest) => (.array items, rest)
    | .openBrace :: .closeBrace :: rest => some (.object [], rest)
    | .openBrace :: rest =>
      (readMembers fuel rest).map fun (members, rest) => (.object members, rest)
    | _ => none

def readItems : Nat → List Token → Option (List Json × List Token)
  | 0, _ => none
  | fuel + 1, tokens =>
    match readValue fuel tokens with
    | some (item, .closeBracket :: rest) => some ([item], rest)
    | some (item, .comma :: rest) =>
      (readItems fuel rest).map fun (items, rest) => (item :: items, rest)
    | _ => none

def readMembers : Nat → List Token → Option (List (List Glyph × Json) × List Token)
  | 0, _ => none
  | fuel + 1, tokens =>
    match tokens with
    | .string name :: .colon :: rest =>
      match readValue fuel rest with
      | some (value, .closeBrace :: rest) => some ([(name, value)], rest)
      | some (value, .comma :: rest) =>
        (readMembers fuel rest).map fun (members, rest) => ((name, value) :: members, rest)
      | _ => none
    | _ => none

end

/-- Reads a text that is one value and nothing else. -/
def parse? (text : String) : Option Json :=
  match tokens text.toList with
  | none => none
  | some tokens =>
    match readValue (2 * tokens.length) tokens with
    | some (value, []) => some value
    | _ => none

/-! ## Reading single values -/

/-- The characters of a string in which every surrogate has its partner. -/
def chars? : List Glyph → Option (List Char)
  | [] => some []
  | .char c :: rest => (chars? rest).map (c :: ·)
  | .lone _ :: _ => none

def text? (glyphs : List Glyph) : Option String :=
  (chars? glyphs).map String.ofList

/-- A number that is written as a whole number and fits in a word. -/
def word? : Json → Option Word
  | .number spelling =>
    match Text.readWord 10 spelling with
    | .ok word => some word
    | .error _ => none
  | _ => none

def optionalWord? : Json → Option (Option Word)
  | .null => some none
  | value => (word? value).map some

/-! ## Reading records

A record is written as an object, with its fields in any order, or as an array, with its fields in the
order of their declaration. Either way fields may be missing. -/

def namedMembers? : List (List Glyph × Json) → Option (List (String × Json))
  | [] => some []
  | (name, value) :: rest =>
    match text? name, namedMembers? rest with
    | some name, some rest => some ((name, value) :: rest)
    | _, _ => none

def valuesOf (name : String) (members : List (String × Json)) : List Json :=
  (members.filter fun member => member.1 == name).map (·.2)

/-- The value of a member that may be missing but must not be repeated. -/
def memberOf? (members : List (String × Json)) (name : String) : Option (Option Json) :=
  match valuesOf name members with
  | [] => some none
  | [value] => some (some value)
  | _ => none

def membersOf? (members : List (String × Json)) : List String → Option (List (Option Json))
  | [] => some []
  | name :: names =>
    match memberOf? members name, membersOf? members names with
    | some value, some values => some (value :: values)
    | _, _ => none

/-- The fields of a record, in the order of the declaration. A closed record refuses members that it
does not declare; an open one skips them. -/
def fields? (closed : Bool) (declared : List String) : Json → Option (List (Option Json))
  | .array items =>
    if items.length ≤ declared.length then
      some (items.map some ++ List.replicate (declared.length - items.length) none)
    else none
  | .object members =>
    match namedMembers? members with
    | none => none
    | some members =>
      if closed && members.any (fun member => !declared.contains member.1) then none
      else membersOf? members declared
  | _ => none

def fieldOr? {α : Type} (default : α) (read : Json → Option α) : Option Json → Option α
  | none => some default
  | some value => read value

end Json

end RegisterMachine

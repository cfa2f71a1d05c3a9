/-! # UTF-8

Decoding of bytes, one at a time. A byte either stands for a character, starts one, continues the one
under way, or fits nowhere. The decoder keeps the longest start of a character that can still be
completed; when the next byte does not continue it, that start is one broken piece, and the byte is
looked at afresh.

`scan` lists the characters and the broken pieces. Strict decoding refuses any broken piece, lossy
decoding shows each as the replacement character.
-/

namespace RegisterMachine.Text.Utf8

/-! ## Decoding -/

/-- A character under way. -/
structure Pending where
  /-- The number of bytes still to come after the next one. -/
  after : Nat
  low : UInt8
  high : UInt8
  bits : Nat
deriving DecidableEq, Repr

/-- What a byte means where no character is under way. -/
inductive Lead where
  | char (c : Char)
  | start (pending : Pending)
  | broken
deriving DecidableEq, Repr

/-- Classifies the first byte of a character. The ranges of the second byte keep out overlong forms,
surrogates and everything above the last code point. -/
def lead (b : UInt8) : Lead :=
  let n := b.toNat
  if n < 0x80 then .char (Char.ofNat n)
  else if n < 0xc2 then .broken
  else if n < 0xe0 then .start ⟨0, 0x80, 0xbf, n - 0xc0⟩
  else if n = 0xe0 then .start ⟨1, 0xa0, 0xbf, 0⟩
  else if n = 0xed then .start ⟨1, 0x80, 0x9f, n - 0xe0⟩
  else if n < 0xf0 then .start ⟨1, 0x80, 0xbf, n - 0xe0⟩
  else if n = 0xf0 then .start ⟨2, 0x90, 0xbf, 0⟩
  else if n < 0xf4 then .start ⟨2, 0x80, 0xbf, n - 0xf0⟩
  else if n = 0xf4 then .start ⟨2, 0x80, 0x8f, n - 0xf0⟩
  else .broken

/-- Lists the characters in the bytes, with `none` for each broken piece. -/
def scan : Option Pending → List UInt8 → List (Option Char)
  | none, [] => []
  | some _, [] => [none]
  | none, b :: rest =>
    match lead b with
    | .char c => some c :: scan none rest
    | .start pending => scan (some pending) rest
    | .broken => none :: scan none rest
  | some p, b :: rest =>
    if p.low ≤ b ∧ b ≤ p.high then
      let bits := p.bits * 64 + (b.toNat - 0x80)
      match p.after with
      | 0 => some (Char.ofNat bits) :: scan none rest
      | after + 1 => scan (some ⟨after, 0x80, 0xbf, bits⟩) rest
    else
      none ::
        match lead b with
        | .char c => some c :: scan none rest
        | .start pending => scan (some pending) rest
        | .broken => none :: scan none rest

def complete : List (Option Char) → Option (List Char)
  | [] => some []
  | none :: _ => none
  | some c :: rest => (complete rest).map (c :: ·)

def decode? (bytes : List UInt8) : Option String :=
  (complete (scan none bytes)).map String.ofList

/-- The text in the bytes, with the replacement character for each broken piece. -/
def decodeLossy (bytes : List UInt8) : String :=
  String.ofList ((scan none bytes).map (·.getD (Char.ofNat 0xfffd)))

/-! ## Encoding -/

def encode (text : String) : List UInt8 :=
  text.toUTF8.data.toList

end RegisterMachine.Text.Utf8

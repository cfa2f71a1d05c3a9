import RegisterMachine.Image.Basic
import RegisterMachine.Image.Error

/-! # Binary images

Consecutive words of eight bytes each, the least significant byte first.
-/

namespace RegisterMachine.Image

def wordBytes : Nat := 8

/-- The `count` lowest bytes of a number, the least significant first. -/
def bytesOfNat : Nat → Nat → List UInt8
  | 0, _ => []
  | count + 1, n => UInt8.ofNat (n % 256) :: bytesOfNat count (n / 256)

/-- The number with the given bytes, the least significant first. -/
def natOfBytes : List UInt8 → Nat
  | [] => 0
  | byte :: rest => byte.toNat + 256 * natOfBytes rest

def bytesOfWord (word : Word) : List UInt8 :=
  bytesOfNat wordBytes word.toNat

/-- The words in whole groups of eight bytes; what is left over is dropped. -/
def wordsOfBytes : List UInt8 → List Word
  | b0 :: b1 :: b2 :: b3 :: b4 :: b5 :: b6 :: b7 :: rest =>
    UInt64.ofNat (natOfBytes [b0, b1, b2, b3, b4, b5, b6, b7]) :: wordsOfBytes rest
  | _ => []

def toBytes (image : Image) : List UInt8 :=
  image.words.flatMap bytesOfWord

def ofBytes (bytes : List UInt8) : Except ImageError Image :=
  if bytes.length % wordBytes = 0 then .ok (ofWords (wordsOfBytes bytes))
  else .error (.truncated bytes.length)

end RegisterMachine.Image

import RegisterMachine.Text.Numeral
import RegisterMachine.Word

/-! # Program images

A program image is a list of words, each with the source text it came from. Words that come from
elsewhere have their hexadecimal numeral for a source.
-/

namespace RegisterMachine

structure ImageEntry where
  word : Word
  /-- The text it came from. -/
  source : String
deriving DecidableEq, Repr

structure Image where
  entries : List ImageEntry
deriving DecidableEq, Repr

namespace Image

def words (image : Image) : List Word :=
  image.entries.map (·.word)

def sources (image : Image) : List String :=
  image.entries.map (·.source)

def size (image : Image) : Nat :=
  image.entries.length

def ofWords (words : List Word) : Image where
  entries := words.map fun word => { word, source := Text.hexWord word }

end Image

end RegisterMachine

import RegisterMachine.Image.File
import RegisterMachine.Proofs.Host.File
import RegisterMachine.Proofs.Image.Binary
import RegisterMachine.Proofs.Image.Text
import RegisterMachine.Proofs.Text.Utf8

/-! # Loading what was saved

Both formats keep the words of an image: what is encoded is decoded with the same words
(`decode_encode`). The name of a file decides the format on both ways, so an image that was saved under a
name is loaded from it with the same words.
-/

namespace RegisterMachine.Image

theorem decode_encode (format : ImageFormat) (image : Image) :
    ∃ loaded, decode format (encode format image) = .ok loaded ∧ loaded.words = image.words := by
  cases format with
  | binary => exact ⟨ofWords image.words, ofBytes_toBytes image, words_ofWords image.words⟩
  | text =>
    obtain ⟨loaded, parsed, same⟩ := parse_render image
    refine ⟨loaded, ?_, same⟩
    simp only [decode, encode, textOfFile, Text.Utf8.decode?_encode, parsed]

theorem load_of_content {read : String → Except FileError (List UInt8)} {path : String}
    {image : Image} (content : read path = .ok (encode (.ofPath path) image)) :
    ∃ loaded, load read path = .ok loaded ∧ loaded.words = image.words := by
  rw [load, content]
  exact decode_encode (.ofPath path) image

theorem read_of_save {tree tree' : FileTree} {path : String} {image : Image}
    (saved : save tree path image = (.ok (), tree')) :
    tree'.read path = .ok (encode (.ofPath path) image) := by
  unfold save at saved
  split at saved
  · rename_i written
    cases saved
    exact FileTree.read_of_write written
  · cases saved

/-- Saving and loading keep the words of an image, in both formats and under every name. -/
theorem load_saved :
    (∀ image : Image, ∃ loaded, parse image.render = .ok loaded ∧ loaded.words = image.words) ∧
    (∀ image : Image, ∃ loaded, ofBytes image.toBytes = .ok loaded ∧ loaded.words = image.words) ∧
    (∀ {read : String → Except FileError (List UInt8)} {path : String} {image : Image},
      read path = .ok (encode (.ofPath path) image) →
        ∃ loaded, load read path = .ok loaded ∧ loaded.words = image.words) ∧
    ∀ {tree tree' : FileTree} {path : String} {image : Image},
      save tree path image = (.ok (), tree') →
        ∃ loaded, load tree'.read path = .ok loaded ∧ loaded.words = image.words :=
  ⟨parse_render, decode_encode .binary, load_of_content,
    fun saved => load_of_content (read_of_save saved)⟩

/-- An image with an instruction, with a word that is none, and with the greatest word. -/
def mixedWords : Image :=
  ofWords [RegisterMachine.encode .addi 2 5 0, 0x41, 0xffffffffffffffff]

/-- The tree with nothing but this image in a text file. -/
def mixedTree : FileTree :=
  ⟨[(["a"], .file (encode (.ofPath "a") mixedWords))]⟩

theorem mixedWords_loaded :
    (∃ loaded, load (fun path => .ok (encode (.ofPath path) mixedWords)) "a.bin" = .ok loaded ∧
      loaded.words = mixedWords.words) ∧
    save {} "a" mixedWords = (.ok (), mixedTree) ∧
    ∃ loaded, load mixedTree.read "a" = .ok loaded ∧ loaded.words = mixedWords.words := by
  have located : FileTree.locate {} "a" = .ok ([], some "a") := by decide +kernel
  have noSlash : "a".endsWith "/" = false := by decide +kernel
  have free : FileTree.lookup {} [] "a" = .ok none := rfl
  have saved : save {} "a" mixedWords = (.ok (), mixedTree) := by
    simp only [save, FileTree.write, located, noSlash, free]
    rfl
  exact ⟨load_saved.2.2.1 rfl, saved, load_saved.2.2.2 saved⟩

end RegisterMachine.Image

import RegisterMachine.Proofs.Image.Code
import RegisterMachine.Proofs.Instruction.Disassembly

/-! # Reading rendered images back

A rendered image is a list of lines, each ended by a line feed that is the only one in it
(`toList_render`). The lines of the heading have no code, and the code of every other line is the word
in hexadecimal, whatever its comment says (`lineCode_hexWord`). So parsing gives the words back
(`parse_render`).
-/

namespace RegisterMachine.Image

open Text

/-! ## Lines -/

theorem lines_flatMap {text : List (List Char)} (single : ∀ line ∈ text, '\n' ∉ line) :
    lines (text.flatMap (· ++ ['\n'])) = text ++ [[]] := by
  induction text with
  | nil => rfl
  | cons line text inductionHypothesis =>
    rw [List.flatMap_cons, List.append_assoc, List.singleton_append, lines_append,
      lines_of_single (single line List.mem_cons_self),
      inductionHypothesis fun line member => single line (List.mem_cons_of_mem _ member)]
    rfl

/-! ## What is rendered stays on its line -/

theorem not_mem_hexWord (word : Word) : '\n' ∉ (hexWord word).toList := by
  intro member
  exact forall_mem_hexWord (p := (· ≠ '\n')) word (by decide) (by decide) _ member rfl

theorem not_mem_listingAddress (n : Nat) : '\n' ∉ (listingAddress n).toList := by
  have digits : '\n' ∉ (decimal n).toList := not_mem_decimal (by decide) n
  simp [listingAddress, padLeft, List.mem_replicate, digits]

theorem not_mem_disassemble (word : Word) : '\n' ∉ (disassemble word).toList := by
  unfold disassemble Instruction.render
  split
  · simp [not_mem_hexWord]
  · split
    · exact Opcode.not_mem_mnemonic (by decide) _
    · simp only [String.toList_append, List.mem_append, not_or]
      refine ⟨⟨Opcode.not_mem_mnemonic (by decide) _, by decide⟩,
        not_mem_intercalate (by decide) fun text member => ?_⟩
      obtain ⟨⟨kind, value⟩, _, rfl⟩ := List.mem_map.1 member
      exact kind.not_mem_render (by decide) (by decide) (by decide) value

/-! ## Rendered lines -/

/-- A rendered word without the line feed behind it. -/
def listed (address : Nat) (word : Word) : List Char :=
  (hexWord word).toList ++ ' ' :: ';' :: ' ' :: (listingAddress address).toList ++
    ' ' :: (disassemble word).toList

def heading (size : Nat) : List (List Char) :=
  ["; regvm program image".toList, "; ".toList ++ (decimal size).toList ++ " words".toList, []]

theorem toList_render (image : Image) :
    image.render.toList =
      (heading image.size ++ image.words.mapIdx listed).flatMap (· ++ ['\n']) := by
  have line : ∀ address word, (renderLine address word).toList = listed address word ++ ['\n'] := by
    intro address word
    simp [renderLine, listed]
  have words : (String.join (image.words.mapIdx renderLine)).toList =
      (image.words.mapIdx listed).flatMap (· ++ ['\n']) := by
    simp [List.mapIdx_eq_zipIdx_map, List.flatMap_map, line]
  unfold render
  simp only [String.toList_append, words, List.flatMap_append]
  generalize (image.words.mapIdx listed).flatMap (· ++ ['\n']) = text
  simp [heading]

theorem single_of_mem_rendered {image : Image} {line : List Char}
    (member : line ∈ heading image.size ++ image.words.mapIdx listed) : '\n' ∉ line := by
  rcases List.mem_append.1 member with header | rendered
  · simp only [heading, List.mem_cons, List.not_mem_nil, or_false] at header
    rcases header with rfl | rfl | rfl
    · decide
    · have digits : '\n' ∉ (decimal image.size).toList := not_mem_decimal (by decide) _
      simp [digits]
    · simp
  · obtain ⟨address, inside, rfl⟩ := List.mem_mapIdx.1 rendered
    simp [listed, not_mem_hexWord, not_mem_listingAddress, not_mem_disassemble]

/-! ## Reading lines -/

theorem solid_hexWord (word : Word) : ∀ c ∈ (hexWord word).toList, isBlank c = false :=
  forall_mem_hexWord word (by decide) (by decide)

/-- The code of a word in hexadecimal is that word, whatever comment stands behind it. -/
theorem lineCode_hexWord (word : Word) {blanks comment : List Char}
    (blank : ∀ c ∈ blanks, isBlank c = true) (commented : IsComment comment) :
    lineCode ((hexWord word).toList ++ blanks ++ comment) = (hexWord word).toList := by
  obtain ⟨first, last⟩ := bare_of_solid (solid_hexWord word)
  refine hasCode_iff.1 ⟨⟨[], blanks, comment, ?placed, blank, commented⟩, ?code, first, last⟩
  case placed => rw [List.nil_append]
  case code =>
    intro member
    exact forall_mem_hexWord (p := (· ≠ ';')) word (by decide) (by decide) _ member rfl

theorem readCode_hexWord (word : Word) : readCode (hexWord word).toList = .ok word := by
  have unseparated : (hexWord word).toList.filter (· != '_') = (hexWord word).toList :=
    List.filter_eq_self.2 (forall_mem_hexWord word (by decide) (by decide))
  have marked : Marked ((hexWord word).toList.filter (· != '_')) 16 (wordDigits word) := by
    rw [unseparated, toList_hexWord]
    exact .lower _
  rw [readCode_of_solid marked (solid_hexWord word), readWord_wordDigits]
  rfl

theorem parseLine_hexWord (word : Word) {blanks comment : List Char}
    (blank : ∀ c ∈ blanks, isBlank c = true) (commented : IsComment comment) :
    parseLine ((hexWord word).toList ++ blanks ++ comment) =
      .ok (some ⟨word, String.ofList (trim ((hexWord word).toList ++ blanks ++ comment))⟩) := by
  have code := lineCode_hexWord word blank commented
  have read := readCode_hexWord word
  rw [toList_hexWord] at code read
  simp only [parseLine, toList_hexWord, code, read]

theorem parseLine_listed (address : Nat) (word : Word) :
    parseLine (listed address word) =
      .ok (some ⟨word, String.ofList (trim (listed address word))⟩) := by
  -- The first semicolon is the one behind the word, and a blank stands in front of it.
  have shape : listed address word = (hexWord word).toList ++ [' '] ++ ';' :: ' ' ::
      ((listingAddress address).toList ++ ' ' :: (disassemble word).toList) := by
    simp [listed]
  rw [shape]
  exact parseLine_hexWord word (List.all_eq_true.1 (by decide)) (.inr ⟨_, rfl⟩)

theorem parseLine_of_heading {size : Nat} {line : List Char} (member : line ∈ heading size) :
    parseLine line = .ok none := by
  have comment : ∀ rest, parseLine (';' :: rest) = .ok none := by
    intro rest
    have code : lineCode (';' :: rest) = [] := rfl
    simp only [parseLine, code]
  simp only [heading, List.mem_cons, List.not_mem_nil, or_false] at member
  rcases member with rfl | rfl | rfl
  · exact comment _
  · exact comment _
  · rfl

/-! ## Reading images -/

theorem parseLines_of_map {text : List (List Char)} {entries : List (Option ImageEntry)}
    (read : text.map parseLine = entries.map Except.ok) (number : Nat) :
    parseLines number text = .ok (entries.flatMap Option.toList) := by
  induction text generalizing entries number with
  | nil =>
    cases entries with
    | nil => rfl
    | cons entry entries => cases read
  | cons line text inductionHypothesis =>
    cases entries with
    | nil => cases read
    | cons entry entries =>
      obtain ⟨first, others⟩ := List.cons.inj read
      simp only [parseLines, first, inductionHypothesis others]
      rfl

theorem parseLine_listing (words : List Word) :
    ∃ entries : List ImageEntry,
      (words.mapIdx listed).map parseLine = (entries.map some).map Except.ok ∧
        entries.map (·.word) = words := by
  refine ⟨words.zipIdx.map fun (word, address) =>
    ⟨word, String.ofList (trim (listed address word))⟩, ?_, ?_⟩
  · simp [List.mapIdx_eq_zipIdx_map, parseLine_listed]
  · simp [Function.comp_def]

/-- A rendered image is read with the same words. -/
theorem parse_render (image : Image) :
    ∃ loaded, parse image.render = .ok loaded ∧ loaded.words = image.words := by
  obtain ⟨entries, listing, words⟩ := parseLine_listing image.words
  have header : (heading image.size).map parseLine =
      (List.replicate 3 (none : Option ImageEntry)).map Except.ok := by
    rw [List.map_congr_left fun line => parseLine_of_heading]
    rfl
  -- The text ends in a line feed, behind which a last empty line is read.
  have last : parseLine [] = .ok none := rfl
  have read : (heading image.size ++ image.words.mapIdx listed ++ [[]]).map parseLine =
      (List.replicate 3 none ++ entries.map some ++ [none]).map Except.ok := by
    simp only [List.map_append, header, listing, List.map_cons, List.map_nil, last]
  refine ⟨⟨entries⟩, ?_, words⟩
  rw [parse, toList_render, lines_flatMap fun line => single_of_mem_rendered, parseLines_of_map read]
  simp [Except.map, List.flatMap_map]

end RegisterMachine.Image

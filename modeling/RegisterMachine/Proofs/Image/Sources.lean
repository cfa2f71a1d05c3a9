import Mathlib.Data.List.Basic
import RegisterMachine.Image.Binary
import RegisterMachine.Proofs.Image.Lines
import RegisterMachine.Proofs.Image.Text

/-! # Source texts as a source

The source text of an entry is one line, and reading that line gives the entry again (`ReadsBack`). For a
word that was read from a line this is so because taking the blanks around the line away changes neither
its code nor its trimmed text (`parseLine_trim`); for a word that comes from elsewhere because its
hexadecimal numeral is code. So the source texts of an image, one a line, are read as that image.
-/

namespace RegisterMachine

open Text

/-- The source text is one line, from which the entry itself is read. -/
structure ImageEntry.ReadsBack (entry : ImageEntry) : Prop where
  single : '\n' ∉ entry.source.toList
  read : Image.parseLine entry.source.toList = .ok (some entry)

theorem HasCode.padded {line code left right : List Char} (coded : HasCode line code)
    (blank : ∀ c ∈ left ++ right, isBlank c = true) : HasCode (left ++ line ++ right) code := by
  obtain ⟨⟨inner, outer, comment, rfl, solid, commented⟩, uncommented, first, last⟩ := coded
  refine ⟨?_, uncommented, first, last⟩
  simp only [List.forall_mem_append] at blank solid
  obtain rfl | ⟨text, rfl⟩ := commented
  · -- Without a comment the blanks on the right are next to those of the line.
    refine ⟨left ++ inner, outer ++ right, [], by simp, ?_, .inl rfl⟩
    simp only [List.forall_mem_append]
    exact ⟨⟨blank.1, solid.1⟩, solid.2, blank.2⟩
  · refine ⟨left ++ inner, outer, ';' :: (text ++ right), by simp, ?_, .inr ⟨_, rfl⟩⟩
    simp only [List.forall_mem_append]
    exact ⟨⟨blank.1, solid.1⟩, solid.2⟩

namespace Image

/-! ## Entries -/

theorem lineCode_trim (line : List Char) : lineCode (trim line) = lineCode line := by
  obtain ⟨left, right, kept, blank, _⟩ := exists_trim line
  have coded : HasCode (left ++ trim line ++ right) (lineCode (trim line)) :=
    (hasCode_iff.2 rfl).padded blank
  rw [← kept] at coded
  exact (hasCode_iff.1 coded).symm

theorem parseLine_trim (line : List Char) : parseLine (trim line) = parseLine line := by
  simp only [parseLine, lineCode_trim, trim_trim]

theorem source_of_parseLine {line : List Char} {entry : ImageEntry}
    (read : parseLine line = .ok (some entry)) : entry.source = String.ofList (trim line) := by
  unfold parseLine at read
  split at read
  · cases read
  · split at read
    · cases read
      rfl
    · cases read

theorem readsBack_of_parseLine {line : List Char} {entry : ImageEntry} (single : '\n' ∉ line)
    (read : parseLine line = .ok (some entry)) : entry.ReadsBack := by
  have source := source_of_parseLine read
  constructor
  · rw [source, String.toList_ofList]
    exact fun member => single (trim_subset line member)
  · rw [source, String.toList_ofList, parseLine_trim, read]

theorem readsBack_hexWord (word : Word) : ImageEntry.ReadsBack ⟨word, hexWord word⟩ := by
  constructor
  · exact not_mem_hexWord word
  · obtain ⟨first, last⟩ := bare_of_solid (solid_hexWord word)
    have read := @parseLine_hexWord word [] [] nofun (.inl rfl)
    rw [List.append_nil, List.append_nil, trim_eq_self first last, String.ofList_toList] at read
    exact read

/-! ## Images -/

theorem exists_line_of_mem {number : Nat} {text : List (List Char)} {entries : List ImageEntry}
    (read : parseLines number text = .ok entries) {entry : ImageEntry} (member : entry ∈ entries) :
    ∃ line ∈ text, parseLine line = .ok (some entry) := by
  induction text generalizing number entries with
  | nil =>
    cases read
    exact absurd member List.not_mem_nil
  | cons line text inductionHypothesis =>
    rw [parseLines_cons] at read
    cases first : parseLine line with
    | error cause =>
      rw [first] at read
      cases read
    | ok found =>
      cases others : parseLines (number + 1) text with
      | error e =>
        rw [first, others] at read
        cases read
      | ok rest =>
        rw [first, others] at read
        obtain rfl := Except.ok.inj read
        rcases List.mem_append.1 member with here | below
        · refine ⟨line, List.mem_cons_self, ?_⟩
          rw [first, Option.mem_toList.1 here]
        · obtain ⟨later, inside, same⟩ := inductionHypothesis others below
          exact ⟨later, List.mem_cons_of_mem line inside, same⟩

theorem readsBack_of_parse {text : String} {image : Image} (read : parse text = .ok image) :
    ∀ entry ∈ image.entries, entry.ReadsBack := by
  intro entry member
  cases found : parseLines 1 (lines text.toList) with
  | error e =>
    rw [parse, found] at read
    cases read
  | ok entries =>
    rw [parse, found] at read
    obtain rfl := Except.ok.inj read
    obtain ⟨line, inside, same⟩ := exists_line_of_mem found member
    exact readsBack_of_parseLine (single_of_mem_lines inside) same

theorem readsBack_of_ofWords (words : List Word) :
    ∀ entry ∈ (ofWords words).entries, entry.ReadsBack := by
  intro entry member
  obtain ⟨word, _, rfl⟩ := List.mem_map.1 member
  exact readsBack_hexWord word

theorem parse_of_readsBack {image : Image} (faithful : ∀ entry ∈ image.entries, entry.ReadsBack) :
    parse ("\n".intercalate image.sources) = .ok image := by
  have split : (image.sources.flatMap fun text => lines text.toList) =
      image.entries.map (·.source.toList) := by
    rw [sources, List.flatMap_map, List.map_eq_flatMap]
    exact List.flatMap_congr fun entry member => lines_of_single (faithful entry member).single
  have read : (image.entries.map (·.source.toList)).map parseLine =
      (image.entries.map some).map Except.ok := by
    rw [List.map_map, List.map_map]
    exact List.map_congr_left fun entry member => (faithful entry member).read
  rw [parse_intercalate, split, parseLines_of_map read]
  simp [Except.map, List.flatMap_map]

/-- Where images come from: a text, bytes, or bare words. -/
inductive Made : Image → Prop where
  | parsed {text : String} {image : Image} (read : parse text = .ok image) : Made image
  | decoded {bytes : List UInt8} {image : Image} (read : ofBytes bytes = .ok image) : Made image
  | wrapped (words : List Word) : Made (ofWords words)

theorem Made.readsBack {image : Image} (made : image.Made) :
    ∀ entry ∈ image.entries, entry.ReadsBack := by
  cases made with
  | parsed read => exact readsBack_of_parse read
  | decoded read =>
    unfold ofBytes at read
    split at read
    · cases read
      exact readsBack_of_ofWords _
    · cases read
  | wrapped words => exact readsBack_of_ofWords words

/-- There is a source text for each word of an image, and the source texts, one a line, are read as the same
words with the same source texts. -/
theorem sources_read_back {image : Image} (made : image.Made) :
    image.words.length = image.sources.length ∧
      ∃ again, parse ("\n".intercalate image.sources) = .ok again ∧
        again.words = image.words ∧ again.sources = image.sources := by
  constructor
  · rw [words, sources, List.length_map, List.length_map]
  · exact ⟨image, parse_of_readsBack made.readsBack, rfl, rfl⟩

/-- Two words, the first with a carriage return in its comment and blanks around the line. -/
def remarkedText : String :=
  "\r\u30000x1_0\t;\r mask\u00a0\r\n ; 9\n+7"

def remarkedImage : Image :=
  ⟨[⟨16, "0x1_0\t;\r mask"⟩, ⟨7, "+7"⟩]⟩

theorem remarkedText_reads_back :
    parse remarkedText = .ok remarkedImage ∧
      ∃ again, parse "0x1_0\t;\r mask\n+7" = .ok again ∧ again.words = [16, 7] ∧
        again.sources = ["0x1_0\t;\r mask", "+7"] := by
  have read : parse remarkedText = .ok remarkedImage := by decide +kernel
  exact ⟨read, (sources_read_back (.parsed read)).2⟩

end Image

end RegisterMachine

import RegisterMachine.Image.Text
import RegisterMachine.Proofs.Text.Blank
import RegisterMachine.Proofs.Text.Lines
import RegisterMachine.Proofs.Text.Number

/-! # The number in a line

The code of a line is what stands between blanks in front of a comment (`HasCode`). A mark in front of it
gives the radix (`Marked`), and what stands behind the mark is a number, or it is wrong in exactly one way
(`Mistake`).
-/

namespace RegisterMachine

open Text

def IsComment (text : List Char) : Prop :=
  text = [] ∨ ∃ rest, text = ';' :: rest

/-- The code of the line: between blanks, in front of a comment, and without blanks at its own ends. -/
structure HasCode (line code : List Char) : Prop where
  placed : ∃ left right comment, line = left ++ code ++ right ++ comment ∧
    (∀ c ∈ left ++ right, isBlank c = true) ∧ IsComment comment
  uncommented : ';' ∉ code
  first : ∀ c ∈ code.head?, isBlank c = false
  last : ∀ c ∈ code.getLast?, isBlank c = false

/-- The mark in front of a number gives its radix, and no mark stands for decimal. -/
inductive Marked : List Char → Nat → List Char → Prop where
  | lower (numeral : List Char) : Marked ('0' :: 'x' :: numeral) 16 numeral
  | upper (numeral : List Char) : Marked ('0' :: 'X' :: numeral) 16 numeral
  | unmarked {text : List Char} (lower : ∀ numeral, text ≠ '0' :: 'x' :: numeral)
      (upper : ∀ numeral, text ≠ '0' :: 'X' :: numeral) : Marked text 10 text

theorem Marked.radix_bounds {text numeral : List Char} {radix : Nat} (marked : Marked text radix numeral) :
    0 < radix ∧ radix ≤ 16 := by
  cases marked <;> decide

theorem Marked.unique {text numeral other : List Char} {radix base : Nat}
    (marked : Marked text radix numeral) (again : Marked text base other) :
    radix = base ∧ numeral = other := by
  cases marked with
  | lower =>
    cases again with
    | lower => exact ⟨rfl, rfl⟩
    | unmarked lower => exact absurd rfl (lower _)
  | upper =>
    cases again with
    | upper => exact ⟨rfl, rfl⟩
    | unmarked _ upper => exact absurd rfl (upper _)
  | unmarked lower upper =>
    cases again with
    | lower => exact absurd rfl (lower _)
    | upper => exact absurd rfl (upper _)
    | unmarked => exact ⟨rfl, rfl⟩

/-- What is wrong with code, of which this numeral stands behind the mark of this radix. -/
inductive Mistake (code : List Char) (radix : Nat) (numeral : List Char) : LineError → Prop where
  | severalWords (blank : ∃ c ∈ code, isBlank c = true) :
      Mistake code radix numeral (.severalWords (String.ofList code))
  | empty (solid : ∀ c ∈ code, isBlank c = false) (nothing : numeral = []) :
      Mistake code radix numeral (.badNumber (String.ofList code) .empty)
  | tooLarge (solid : ∀ c ∈ code, isBlank c = false) (excessive : IsExcessive radix numeral) :
      Mistake code radix numeral (.badNumber (String.ofList code) .tooLarge)
  | invalidDigit (solid : ∀ c ∈ code, isBlank c = false) (something : numeral ≠ [])
      (moderate : ¬ IsExcessive radix numeral) (strange : ∀ word, ¬ IsNumeral radix numeral word) :
      Mistake code radix numeral (.badNumber (String.ofList code) .invalidDigit)

namespace Image

/-! ## The code of a line -/

/-- Every line has one code, which may be empty. -/
theorem hasCode_iff {line code : List Char} : HasCode line code ↔ lineCode line = code := by
  constructor
  · rintro ⟨⟨left, right, comment, rfl, blank, commented⟩, uncommented, first, last⟩
    have plain : ∀ c ∈ left ++ code ++ right, (c != ';') = true := by
      intro c member
      rw [bne_iff_ne]
      rintro rfl
      simp only [List.mem_append, uncommented, or_false] at member
      exact absurd (blank ';' (List.mem_append.2 member)) (by decide)
    have kept : (left ++ code ++ right ++ comment).takeWhile (· != ';') = left ++ code ++ right := by
      rw [List.takeWhile_append_of_pos plain]
      obtain rfl | ⟨rest, rfl⟩ := commented <;> exact List.append_nil _
    rw [lineCode, kept, trim_append first last blank]
  · rintro rfl
    -- What follows the code and its blanks is empty or begins at the first semicolon.
    obtain ⟨left, right, kept, blank, first, last⟩ := exists_trim (line.takeWhile (· != ';'))
    refine ⟨⟨left, right, line.dropWhile (· != ';'), ?_, blank, ?_⟩, ?_, first, last⟩
    · rw [lineCode, ← kept, List.takeWhile_append_dropWhile]
    · cases comment : line.dropWhile (· != ';') with
      | nil => exact .inl rfl
      | cons c rest =>
        have semicolon := List.head?_dropWhile_not (· != ';') line
        rw [comment] at semicolon
        have same : c = ';' := by simpa using semicolon
        exact .inr ⟨rest, congrArg (· :: rest) same⟩
    · intro member
      have inside : ';' ∈ line.takeWhile (· != ';') := by
        rw [kept]
        exact List.mem_append_left _ (List.mem_append_right _ member)
      exact absurd (List.mem_takeWhile_imp inside) (by decide)

/-! ## One line -/

theorem parseLines_cons (number : Nat) (line : List Char) (rest : List (List Char)) :
    parseLines number (line :: rest) = (do
      let entry ← (parseLine line).mapError (.line number)
      let entries ← parseLines (number + 1) rest
      return entry.toList ++ entries) := by
  rw [parseLines]
  cases parseLine line with
  | error cause => rfl
  | ok entry => cases parseLines (number + 1) rest <;> rfl

theorem parse_single {line : List Char} (single : '\n' ∉ line) :
    parse (String.ofList line) =
      ((parseLine line).map fun entry => ⟨entry.toList⟩).mapError (.line 1) := by
  rw [parse, String.toList_ofList, lines_of_single single, parseLines_cons]
  cases parseLine line with
  | error cause => rfl
  | ok entry => cases entry <;> rfl

theorem exists_parse_single_iff {line : List Char} (single : '\n' ∉ line) :
    (∃ image, parse (String.ofList line) = .ok image) ↔ ∃ entry, parseLine line = .ok entry := by
  rw [parse_single single]
  cases parseLine line with
  | error cause => exact ⟨nofun, nofun⟩
  | ok entry => exact ⟨fun _ => ⟨entry, rfl⟩, fun _ => ⟨_, rfl⟩⟩

theorem parse_single_eq_error_iff {line : List Char} (single : '\n' ∉ line) {cause : LineError} :
    parse (String.ofList line) = .error (.line 1 cause) ↔ parseLine line = .error cause := by
  rw [parse_single single]
  cases parseLine line <;> simp [Except.map, Except.mapError]

/-! ## Marks -/

theorem exists_marked (text : List Char) : ∃ radix numeral, Marked text radix numeral := by
  by_cases lower : ∃ numeral, text = '0' :: 'x' :: numeral
  · obtain ⟨numeral, rfl⟩ := lower
    exact ⟨16, numeral, .lower numeral⟩
  · by_cases upper : ∃ numeral, text = '0' :: 'X' :: numeral
    · obtain ⟨numeral, rfl⟩ := upper
      exact ⟨16, numeral, .upper numeral⟩
    · exact ⟨10, text, .unmarked (not_exists.1 lower) (not_exists.1 upper)⟩

theorem readNumber_of_marked {code numeral : List Char} {radix : Nat}
    (marked : Marked (code.filter (· != '_')) radix numeral) :
    readNumber code = readWord radix numeral := by
  unfold readNumber
  generalize code.filter (· != '_') = text at marked
  cases marked with
  | lower => rfl
  | upper => rfl
  | unmarked lower upper =>
    -- The last branch of `readNumber` is the one for texts that are of neither other form.
    split
    · exact absurd rfl (lower _)
    · exact absurd rfl (upper _)
    · rfl

/-! ## Numbers and mistakes -/

theorem mistake_of_blank {code numeral : List Char} {radix : Nat} {cause : LineError}
    (blank : ∃ c ∈ code, isBlank c = true) :
    Mistake code radix numeral cause ↔ cause = .severalWords (String.ofList code) := by
  obtain ⟨c, member, blankAt⟩ := blank
  have divided : ¬ ∀ c ∈ code, isBlank c = false := fun solid => by
    simp [solid c member] at blankAt
  constructor
  · rintro (_ | ⟨solid, _⟩ | ⟨solid, _⟩ | ⟨solid, _⟩)
    · rfl
    · exact absurd solid divided
    · exact absurd solid divided
    · exact absurd solid divided
  · rintro rfl
    exact .severalWords ⟨c, member, blankAt⟩

theorem mistake_of_solid {code numeral : List Char} {radix : Nat} {cause : LineError}
    (bounds : 0 < radix ∧ radix ≤ 16) (solid : ∀ c ∈ code, isBlank c = false) :
    Mistake code radix numeral cause ↔
      ∃ problem, readWord radix numeral = .error problem ∧
        cause = .badNumber (String.ofList code) problem := by
  obtain ⟨positive, most⟩ := bounds
  constructor
  · rintro (⟨c, member, blank⟩ | ⟨_, nothing⟩ | ⟨_, great⟩ | ⟨_, something, moderate, strange⟩)
    · simp [solid c member] at blank
    · exact ⟨.empty, readWord_eq_empty_iff.2 nothing, rfl⟩
    · exact ⟨.tooLarge, (readWord_eq_tooLarge_iff positive most).2 great, rfl⟩
    · have read := (readWord_eq_invalidDigit_iff positive most).2 ⟨something, moderate, strange⟩
      exact ⟨.invalidDigit, read, rfl⟩
  · rintro ⟨problem, read, rfl⟩
    cases problem with
    | empty => exact .empty solid (readWord_eq_empty_iff.1 read)
    | tooLarge => exact .tooLarge solid ((readWord_eq_tooLarge_iff positive most).1 read)
    | invalidDigit =>
      obtain ⟨something, moderate, strange⟩ := (readWord_eq_invalidDigit_iff positive most).1 read
      exact .invalidDigit solid something moderate strange

section Code

variable {code numeral : List Char} {radix : Nat}
  (marked : Marked (code.filter (· != '_')) radix numeral)

include marked

theorem readCode_of_solid (solid : ∀ c ∈ code, isBlank c = false) :
    readCode code = (readWord radix numeral).mapError (.badNumber (String.ofList code)) := by
  have none : code.any isBlank = false := by simpa using solid
  rw [readCode, none, readNumber_of_marked marked]
  cases readWord radix numeral <;> rfl

theorem readCode_eq_ok_iff {word : Word} :
    readCode code = .ok word ↔ (∀ c ∈ code, isBlank c = false) ∧ IsNumeral radix numeral word := by
  obtain ⟨positive, most⟩ := marked.radix_bounds
  by_cases solid : ∀ c ∈ code, isBlank c = false
  · rw [readCode_of_solid marked solid, and_iff_right solid, ← readWord_eq_ok_iff positive most]
    cases readWord radix numeral <;> simp [Except.mapError]
  · have blank : code.any isBlank = true := by simpa using solid
    simp [readCode, blank, solid]

theorem readCode_eq_error_iff {cause : LineError} :
    readCode code = .error cause ↔ Mistake code radix numeral cause := by
  by_cases solid : ∀ c ∈ code, isBlank c = false
  · rw [mistake_of_solid marked.radix_bounds solid, readCode_of_solid marked solid]
    cases readWord radix numeral <;> simp [Except.mapError, eq_comm]
  · have blank : ∃ c ∈ code, isBlank c = true := by simpa using solid
    have separated : readCode code = .error (.severalWords (String.ofList code)) := by
      rw [readCode, List.any_eq_true.2 blank]
      rfl
    rw [mistake_of_blank blank, separated, Except.error.injEq, eq_comm]

end Code

theorem parseLine_of_code {line code : List Char} (coded : HasCode line code) (nonempty : code ≠ []) :
    parseLine line = (readCode code).map fun word => some ⟨word, String.ofList (trim line)⟩ := by
  cases code with
  | nil => exact absurd rfl nonempty
  | cons c code =>
    simp only [parseLine, hasCode_iff.1 coded]
    cases readCode (c :: code) <;> rfl

theorem parse_line_with_code {line code : List Char} (single : '\n' ∉ line) (coded : HasCode line code)
    (nonempty : code ≠ []) :
    ∃ radix numeral, Marked (code.filter (· != '_')) radix numeral ∧
      (∀ image, parse (String.ofList line) = .ok image ↔
        (∀ c ∈ code, isBlank c = false) ∧
          ∃ word, IsNumeral radix numeral word ∧ image = ⟨[⟨word, String.ofList (trim line)⟩]⟩) ∧
      ∀ e, parse (String.ofList line) = .error e ↔
        ∃ cause, Mistake code radix numeral cause ∧ e = .line 1 cause := by
  obtain ⟨radix, numeral, marked⟩ := exists_marked (code.filter (· != '_'))
  refine ⟨radix, numeral, marked, fun image => ?_, fun e => ?_⟩
  · simp only [← exists_and_left, ← and_assoc, ← readCode_eq_ok_iff marked]
    rw [parse_single single, parseLine_of_code coded nonempty]
    cases readCode code <;> simp [Except.map, Except.mapError, eq_comm]
  · simp only [← readCode_eq_error_iff marked]
    rw [parse_single single, parseLine_of_code coded nonempty]
    cases readCode code <;> simp [Except.map, Except.mapError, eq_comm]

theorem parse_hex_mask :
    HasCode "\t0X+_00fF\u00a0; mask".toList "0X+_00fF".toList ∧
      parse "\t0X+_00fF\u00a0; mask" = .ok ⟨[⟨255, "0X+_00fF\u00a0; mask"⟩]⟩ := by
  have coded : HasCode "\t0X+_00fF\u00a0; mask".toList "0X+_00fF".toList :=
    ⟨⟨"\t".toList, "\u00a0".toList, "; mask".toList, by decide, List.all_eq_true.1 (by decide),
      .inr ⟨_, rfl⟩⟩, by decide, by rintro _ ⟨⟩; decide, by rintro _ ⟨⟩; decide⟩
  refine ⟨coded, ?_⟩
  have solid : ∀ c ∈ "0X+_00fF".toList, isBlank c = false := by
    have none : "0X+_00fF".toList.any isBlank = false := by decide
    simpa using none
  obtain ⟨radix, numeral, marked, accepted, _⟩ := parse_line_with_code (by decide) coded (by decide)
  have marks : Marked ("0X+_00fF".toList.filter (· != '_')) 16 "+00fF".toList := .upper _
  obtain ⟨rfl, rfl⟩ := marked.unique marks
  have spelled : IsNumeral 16 "+00fF".toList 255 :=
    ⟨"00fF".toList, .inr rfl, by decide, [0, 0, 15, 15],
      .cons ⟨by decide, .inl rfl⟩ (.cons ⟨by decide, .inl rfl⟩ (.cons ⟨by decide, .inl rfl⟩
        (.cons ⟨by decide, .inr rfl⟩ .nil))), rfl⟩
  exact (accepted _).2 ⟨solid, 255, spelled, by decide⟩

end Image

end RegisterMachine

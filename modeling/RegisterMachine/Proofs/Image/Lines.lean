import Mathlib.Data.List.Basic
import RegisterMachine.Proofs.Image.Code

/-! # Reading an image line by line

Text behind a line feed is read as it is read alone, only that its mistakes are so many lines further
down (`parse_append`). Lines without code are read as nothing (`parseLines_remarks`), and the first line
that is not read decides the error (`parseLines_eq_error_iff`).
-/

namespace RegisterMachine

open Text

/-- The same mistake so many lines further down. -/
def ImageError.below (count : Nat) : ImageError → ImageError
  | .line number cause => .line (count + number) cause
  | e => e

/-- A line of blanks and a comment, each of which may be missing. -/
def IsRemark (line : List Char) : Prop :=
  '\n' ∉ line ∧ HasCode line []

namespace Image

/-! ## Lines behind lines -/

theorem parseLines_append (number : Nat) (first second : List (List Char)) :
    parseLines number (first ++ second) = (do
      let entries ← parseLines number first
      let others ← parseLines (number + first.length) second
      return entries ++ others) := by
  induction first generalizing number with
  | nil =>
    rw [List.nil_append]
    cases parseLines number second <;> rfl
  | cons line first inductionHypothesis =>
    have last : number + 1 + first.length = number + (line :: first).length := by
      rw [List.length_cons]
      omega
    rw [List.cons_append, parseLines_cons, parseLines_cons, inductionHypothesis, last]
    cases parseLine line with
    | error cause => rfl
    | ok entry =>
      cases parseLines (number + 1) first with
      | error e => rfl
      | ok entries =>
        cases parseLines (number + (line :: first).length) second with
        | error e => rfl
        | ok others => exact congrArg Except.ok (List.append_assoc _ _ _).symm

theorem parseLines_below (count number : Nat) (text : List (List Char)) :
    parseLines (count + number) text = (parseLines number text).mapError (.below count) := by
  induction text generalizing number with
  | nil => rfl
  | cons line text inductionHypothesis =>
    rw [parseLines_cons, parseLines_cons, Nat.add_assoc, inductionHypothesis]
    cases parseLine line with
    | error cause => rfl
    | ok entry => cases parseLines (number + 1) text <;> rfl

theorem parse_append (first second : String) :
    parse (first ++ "\n" ++ second) = (do
      let image ← parse first
      let other ← (parse second).mapError (.below (first.toList.count '\n' + 1))
      return ⟨image.entries ++ other.entries⟩) := by
  have text : (first ++ "\n" ++ second).toList = first.toList ++ '\n' :: second.toList := by
    simp
  rw [parse, text, lines_append, parseLines_append, length_lines, Nat.add_comm 1, parseLines_below,
    parse, parse]
  cases parseLines 1 (lines first.toList) with
  | error e => rfl
  | ok entries => cases parseLines 1 (lines second.toList) <;> rfl

/-! ## The first mistake -/

theorem parseLines_of_mistake {number : Nat} {before after : List (List Char)} {line : List Char}
    {cause : LineError} (earlier : ∀ l ∈ before, ∃ entry, parseLine l = .ok entry)
    (mistake : parseLine line = .error cause) :
    parseLines number (before ++ line :: after) = .error (.line (number + before.length) cause) := by
  induction before generalizing number with
  | nil =>
    rw [List.nil_append, parseLines_cons, mistake]
    rfl
  | cons first before inductionHypothesis =>
    obtain ⟨entry, read⟩ := earlier first List.mem_cons_self
    have stopped : parseLines (number + 1) (before ++ line :: after) =
        .error (.line (number + 1 + before.length) cause) :=
      inductionHypothesis fun l member => earlier l (List.mem_cons_of_mem _ member)
    rw [List.cons_append, parseLines_cons, read, stopped, List.length_cons, Nat.add_assoc,
      Nat.add_comm 1]
    rfl

theorem exists_mistake_of_parseLines {number : Nat} {text : List (List Char)} {e : ImageError}
    (stopped : parseLines number text = .error e) :
    ∃ before line after cause, text = before ++ line :: after ∧
      (∀ earlier ∈ before, ∃ entry, parseLine earlier = .ok entry) ∧
      parseLine line = .error cause ∧ e = .line (number + before.length) cause := by
  induction text generalizing number with
  | nil => cases stopped
  | cons line text inductionHypothesis =>
    rw [parseLines_cons] at stopped
    cases read : parseLine line with
    | error cause =>
      rw [read] at stopped
      obtain rfl := Except.error.inj stopped
      exact ⟨[], line, text, cause, rfl, nofun, read, rfl⟩
    | ok entry =>
      cases others : parseLines (number + 1) text with
      | ok entries =>
        rw [read, others] at stopped
        cases stopped
      | error e' =>
        rw [read, others] at stopped
        obtain rfl := Except.error.inj stopped
        obtain ⟨before, bad, after, cause, rfl, earlier, mistake, rfl⟩ := inductionHypothesis others
        refine ⟨line :: before, bad, after, cause, rfl, ?_, mistake, ?_⟩
        · rintro l (_ | ⟨_, member⟩)
          · exact ⟨entry, read⟩
          · exact earlier l member
        · rw [List.length_cons, Nat.add_assoc, Nat.add_comm 1]

theorem parseLines_eq_error_iff {number : Nat} {text : List (List Char)} {e : ImageError} :
    parseLines number text = .error e ↔
      ∃ before line after cause, text = before ++ line :: after ∧
        (∀ earlier ∈ before, ∃ entry, parseLine earlier = .ok entry) ∧
        parseLine line = .error cause ∧ e = .line (number + before.length) cause := by
  constructor
  · exact exists_mistake_of_parseLines
  · rintro ⟨before, line, after, cause, rfl, earlier, mistake, rfl⟩
    exact parseLines_of_mistake earlier mistake

theorem exists_line_of_parse {text : String} {e : ImageError} (stopped : parse text = .error e) :
    ∃ number cause, e = .line number cause := by
  cases read : parseLines 1 (lines text.toList) with
  | ok entries =>
    rw [parse, read] at stopped
    cases stopped
  | error e' =>
    rw [parse, read] at stopped
    obtain rfl := Except.error.inj stopped
    obtain ⟨_, _, _, cause, _, _, _, rfl⟩ := parseLines_eq_error_iff.1 read
    exact ⟨_, cause, rfl⟩

theorem parse_eq_error_iff {text : String} {e : ImageError} :
    parse text = .error e ↔
      ∃ before line after cause, lines text.toList = before ++ line :: after ∧
        (∀ earlier ∈ before, ∃ image, parse (String.ofList earlier) = .ok image) ∧
        parse (String.ofList line) = .error (.line 1 cause) ∧ e = .line (before.length + 1) cause := by
  have lifted : parse text = .error e ↔ parseLines 1 (lines text.toList) = .error e := by
    rw [parse]
    cases parseLines 1 (lines text.toList) <;> simp [Except.map]
  rw [lifted, parseLines_eq_error_iff]
  refine exists_congr fun before => exists_congr fun line => exists_congr fun after =>
    exists_congr fun cause => and_congr_right fun split => ?_
  have single : ∀ l ∈ before ++ line :: after, '\n' ∉ l := fun l member =>
    single_of_mem_lines (split ▸ member)
  have bad : '\n' ∉ line := single line (by simp)
  have earlier : ∀ l ∈ before, '\n' ∉ l := fun l member => single l (List.mem_append_left _ member)
  rw [parse_single_eq_error_iff bad, Nat.add_comm 1]
  exact and_congr_left' (forall₂_congr fun l member => (exists_parse_single_iff (earlier l member)).symm)

/-! ## Lines without code -/

theorem parseLine_of_remark {line : List Char} (remark : IsRemark line) : parseLine line = .ok none := by
  have nothing := hasCode_iff.1 remark.2
  simp only [parseLine, nothing]

theorem parseLines_remarks {remarks : List (List Char)} (remark : ∀ line ∈ remarks, IsRemark line)
    (number : Nat) : parseLines number remarks = .ok [] := by
  induction remarks generalizing number with
  | nil => rfl
  | cons line remarks inductionHypothesis =>
    rw [parseLines_cons, parseLine_of_remark (remark line List.mem_cons_self),
      inductionHypothesis fun l member => remark l (List.mem_cons_of_mem _ member)]
    rfl

theorem lines_intercalate (piece : String) (pieces : List String) :
    lines ("\n".intercalate (piece :: pieces)).toList =
      (piece :: pieces).flatMap fun text => lines text.toList := by
  induction pieces generalizing piece with
  | nil => simp
  | cons next pieces inductionHypothesis =>
    have text : ("\n".intercalate (piece :: next :: pieces)).toList =
        piece.toList ++ '\n' :: ("\n".intercalate (next :: pieces)).toList := by
      simp [String.intercalate_cons_cons]
    rw [text, lines_append, inductionHypothesis]
    rfl

/-- No text at all is read as the empty text is. -/
theorem parse_intercalate (pieces : List String) :
    parse ("\n".intercalate pieces) =
      (parseLines 1 (pieces.flatMap fun text => lines text.toList)).map Image.mk := by
  cases pieces with
  | nil => rfl
  | cons piece pieces => rw [parse, lines_intercalate]

theorem toOption_parseLines (number : Nat) (text : List (List Char)) :
    (parseLines number text).toOption = (parseLines 1 text).toOption := by
  -- Only errors have a number in them.
  have below : ∀ number, (parseLines (number + 0) text).toOption = (parseLines 0 text).toOption := by
    intro number
    rw [parseLines_below]
    cases parseLines 0 text <;> rfl
  exact (below number).trans (below 1).symm

theorem toOption_parseLines_append (number : Nat) (first second : List (List Char)) :
    (parseLines number (first ++ second)).toOption = (do
      let entries ← (parseLines 1 first).toOption
      let others ← (parseLines 1 second).toOption
      return entries ++ others) := by
  rw [parseLines_append, ← toOption_parseLines number first,
    ← toOption_parseLines (number + first.length) second]
  cases parseLines number first with
  | error e => rfl
  | ok entries => cases parseLines (number + first.length) second <;> rfl

theorem toOption_parse_intercalate (pieces : List String) :
    (parse ("\n".intercalate pieces)).toOption =
      (parseLines 1 (pieces.flatMap fun text => lines text.toList)).toOption.map Image.mk := by
  rw [parse_intercalate]
  cases parseLines 1 (pieces.flatMap fun text => lines text.toList) <;> rfl

/-- Lines without code anywhere between the others change no word, and no text without mistakes gets
one by them. -/
theorem toOption_parse_remarks {before remarks after : List String}
    (remark : ∀ line ∈ remarks, IsRemark line.toList) :
    (parse ("\n".intercalate (before ++ remarks ++ after))).toOption =
      (parse ("\n".intercalate (before ++ after))).toOption := by
  have skipped : (remarks.flatMap fun text => lines text.toList) = remarks.map String.toList := by
    rw [List.map_eq_flatMap]
    exact List.flatMap_congr fun line member => lines_of_single (remark line member).1
  have nothing : (parseLines 1 (remarks.map String.toList)).toOption = some [] := by
    rw [parseLines_remarks fun line member => ?_]
    · rfl
    · obtain ⟨text, inside, rfl⟩ := List.mem_map.1 member
      exact remark text inside
  rw [toOption_parse_intercalate, toOption_parse_intercalate]
  simp only [List.flatMap_append, skipped, toOption_parseLines_append, nothing]
  cases (parseLines 1 (before.flatMap fun text => lines text.toList)).toOption with
  | none => rfl
  | some entries => simp

/-! ## Line by line -/

theorem parse_line_by_line :
    (∀ first second : String,
      match parse first, parse second with
      | .ok image, .ok other =>
        ∃ joined, parse (first ++ "\n" ++ second) = .ok joined ∧
          joined.words = image.words ++ other.words ∧ joined.sources = image.sources ++ other.sources
      | .ok _, .error e =>
        ∃ number cause, e = .line number cause ∧
          parse (first ++ "\n" ++ second) =
            .error (.line (first.toList.count '\n' + 1 + number) cause)
      | .error e, _ => parse (first ++ "\n" ++ second) = .error e) ∧
    (∀ before remarks after : List String, (∀ line ∈ remarks, IsRemark line.toList) →
      (parse ("\n".intercalate (before ++ remarks ++ after))).toOption.map words =
        (parse ("\n".intercalate (before ++ after))).toOption.map words) ∧
    ∀ (text : String) (e : ImageError), parse text = .error e ↔
      ∃ before line after cause, lines text.toList = before ++ line :: after ∧
        (∀ earlier ∈ before, ∃ image, parse (String.ofList earlier) = .ok image) ∧
        parse (String.ofList line) = .error (.line 1 cause) ∧ e = .line (before.length + 1) cause := by
  refine ⟨?appended, ?remarks, ?mistake⟩
  case appended =>
    intro first second
    rw [parse_append]
    cases parse first with
    | error e => rfl
    | ok image =>
      cases stopped : parse second with
      | ok other => exact ⟨_, rfl, List.map_append, List.map_append⟩
      | error e =>
        obtain ⟨number, cause, rfl⟩ := exists_line_of_parse stopped
        exact ⟨number, cause, rfl, rfl⟩
  case remarks =>
    intro before remarks after remark
    rw [toOption_parse_remarks remark]
  case mistake =>
    intro text e
    exact parse_eq_error_iff

theorem remarks_between_words :
    (∀ line ∈ ["", " \t\r", "\u3000; 0x14"], IsRemark line.toList) ∧
      (parse "0x13\n\n \t\r\n\u3000; 0x14\n42\r").toOption.map words = some [0x13, 42] := by
  have remark : ∀ line ∈ ["", " \t\r", "\u3000; 0x14"], IsRemark line.toList := by
    intro line member
    simp only [List.mem_cons, List.not_mem_nil, or_false] at member
    rcases member with rfl | rfl | rfl
    · exact ⟨by decide, ⟨[], [], [], by decide, nofun, .inl rfl⟩, by decide, nofun, nofun⟩
    · exact ⟨by decide, ⟨" \t\r".toList, [], [], by decide, List.all_eq_true.1 (by decide), .inl rfl⟩,
        by decide, nofun, nofun⟩
    · exact ⟨by decide, ⟨"\u3000".toList, [], "; 0x14".toList, by decide,
        List.all_eq_true.1 (by decide), .inr ⟨_, rfl⟩⟩, by decide, nofun, nofun⟩
  refine ⟨remark, ?_⟩
  have kept := parse_line_by_line.2.1 ["0x13"] ["", " \t\r", "\u3000; 0x14"] ["42\r"] remark
  have words : (parse "0x13\n42\r").toOption.map Image.words = some [0x13, 42] := by
    decide +kernel
  exact kept.trans words

end Image

end RegisterMachine

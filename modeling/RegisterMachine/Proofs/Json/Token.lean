import RegisterMachine.Proofs.Json.Grammar

/-! # Reading spelled tokens

The reader takes exactly the text of a string, up to its closing quote (`scanString_spelled`), and
exactly the text of a number, if what follows does not go on with it (`scanNumber_numeral`). Blanks in
front of a token are dropped.
-/

namespace RegisterMachine.Json

/-! ## Strings -/

theorem hexValue?_digit {value : Nat} {c : Char} (digit : HexDigit value c) :
    hexValue? c = some value := by
  obtain ⟨bound, lower | upper⟩ := digit
  · have read : ∀ value : Fin 16, hexValue? value.val.digitChar = some value.val := by decide
    rw [lower]
    exact read ⟨value, bound⟩
  · have read : ∀ value : Fin 16, hexValue? value.val.digitChar.toUpper = some value.val := by decide
    rw [upper]
    exact read ⟨value, bound⟩

theorem scanString_short {letter c : Char} (listed : (letter, c) ∈ shortEscapes) (rest : List Char) :
    scanString ('\\' :: letter :: rest) =
      (scanString rest).map fun (pieces, rest) => (.char c :: pieces, rest) := by
  have known : ∀ pair ∈ shortEscapes, pair.1 ≠ 'u' ∧ shortEscape? pair.1 = some pair.2 := by decide
  obtain ⟨notNumeric, named⟩ := known _ listed
  rw [scanString.eq_def]
  split
  case h_3 numeric => cases numeric; exact absurd rfl notNumeric
  case h_4 shape =>
    cases shape
    rw [named]
    cases scanString rest <;> rfl
  case h_5 other shape =>
    cases shape
    exact (other _ _ rfl rfl).elim
  all_goals rename_i shape; cases shape

theorem scanString_plain {c : Char} (printable : 32 ≤ c.toNat) (notQuote : c ≠ '"')
    (notBackslash : c ≠ '\\') (rest : List Char) :
    scanString (c :: rest) =
      (scanString rest).map fun (pieces, rest) => (.char c :: pieces, rest) := by
  rw [scanString.eq_def]
  split
  case h_2 shape => cases shape; exact absurd rfl notQuote
  case h_3 shape => cases shape; exact absurd rfl notBackslash
  case h_4 shape => cases shape; exact absurd rfl notBackslash
  case h_5 shape =>
    cases shape
    have allowed : (decide (c.toNat < 32) || c == '\\') = false := by
      simp [notBackslash, Nat.not_lt.2 printable]
    rw [allowed]
    cases scanString rest <;> rfl
  all_goals rename_i shape; cases shape

theorem scanString_piece {piece : Piece} {text : List Char} (spelled : SpellsPiece piece text)
    (rest : List Char) :
    scanString (text ++ rest) =
      (scanString rest).map fun (pieces, rest) => (piece :: pieces, rest) := by
  cases spelled with
  | plain printable notQuote notBackslash =>
    exact scanString_plain printable notQuote notBackslash rest
  | short listed => exact scanString_short listed rest
  | numeric first second third fourth =>
    simp only [List.cons_append, List.nil_append, scanString, hexUnit?, hexValue?_digit first,
      hexValue?_digit second, hexValue?_digit third, hexValue?_digit fourth]
    cases scanString rest <;> rfl

theorem scanString_spelled {pieces : List Piece} {text : List Char}
    (spelled : SpellsPieces pieces text) (rest : List Char) :
    scanString (text ++ '"' :: rest) = some (pieces, rest) := by
  induction spelled with
  | nil => rw [List.nil_append, scanString]
  | cons first _ inductionHypothesis =>
    rw [List.append_assoc, scanString_piece first, inductionHypothesis]
    rfl

/-! ## Numbers -/

/-- What follows does not go on with digits. -/
def EndsDigits (rest : List Char) : Prop :=
  ∀ c, rest.head? = some c → c.isDigit = false

/-- What follows does not go on with a number. -/
def Delimits (rest : List Char) : Prop :=
  ∀ c, rest.head? = some c → c.isDigit = false ∧ c ≠ '.' ∧ c ≠ 'e' ∧ c ≠ 'E'

theorem delimits_nil : Delimits [] := by
  intro c first
  cases first

theorem delimits_cons {c : Char} (other : c.isDigit = false ∧ c ≠ '.' ∧ c ≠ 'e' ∧ c ≠ 'E')
    (rest : List Char) : Delimits (c :: rest) := by
  intro first isFirst
  cases isFirst
  exact other

theorem Delimits.endsDigits {rest : List Char} (delimited : Delimits rest) : EndsDigits rest :=
  fun c first => (delimited c first).1

theorem endsDigits_cons {c : Char} (other : c.isDigit = false) (rest : List Char) :
    EndsDigits (c :: rest) := by
  intro first isFirst
  cases isFirst
  exact other

theorem Digits.head {text : List Char} (spelled : Digits text) :
    ∃ c rest, text = c :: rest ∧ c.isDigit = true := by
  cases text with
  | nil => exact absurd rfl spelled.nonempty
  | cons c rest => exact ⟨c, rest, rfl, spelled.digits c List.mem_cons_self⟩

theorem takeWhile_digits {digits rest : List Char} (all : ∀ c ∈ digits, c.isDigit = true)
    (ended : EndsDigits rest) :
    (digits ++ rest).takeWhile Char.isDigit = digits ∧
      (digits ++ rest).dropWhile Char.isDigit = rest := by
  have stops : rest.takeWhile Char.isDigit = [] ∧ rest.dropWhile Char.isDigit = rest := by
    cases rest with
    | nil => exact ⟨rfl, rfl⟩
    | cons c rest =>
      have notDigit : c.isDigit = false := ended c rfl
      simp [notDigit]
  rw [List.takeWhile_append_of_pos all, List.dropWhile_append_of_pos all, stops.1, stops.2,
    List.append_nil]
  exact ⟨rfl, rfl⟩

theorem scanDigits_spelled {digits rest : List Char} (spelled : Digits digits)
    (ended : EndsDigits rest) : scanDigits (digits ++ rest) = some (digits, rest) := by
  obtain ⟨taken, dropped⟩ := takeWhile_digits spelled.digits ended
  unfold scanDigits
  rw [taken, dropped]
  obtain ⟨c, others, rfl, _⟩ := spelled.head
  rfl

theorem scanWhole_spelled {whole rest : List Char} (spelled : Whole whole)
    (ended : EndsDigits rest) : scanWhole (whole ++ rest) = some (whole, rest) := by
  cases spelled with
  | zero => rfl
  | @positive first others nonzero digits =>
    have isDigit := digits.digits first List.mem_cons_self
    obtain ⟨taken, dropped⟩ := takeWhile_digits
      (fun c member => digits.digits c (List.mem_cons_of_mem _ member)) ended
    simp only [List.cons_append, scanWhole, nonzero, if_false, isDigit, if_true, taken, dropped]

theorem Exponent.endsDigits {exponent rest : List Char} (spelled : Exponent exponent)
    (delimited : Delimits rest) : EndsDigits (exponent ++ rest) := by
  cases spelled with
  | absent => exact delimited.endsDigits
  | present marked =>
    obtain rfl | rfl := marked
    · exact endsDigits_cons (by decide) _
    · exact endsDigits_cons (by decide) _

theorem Fraction.endsDigits {fraction exponent rest : List Char} (spelled : Fraction fraction)
    (third : Exponent exponent) (delimited : Delimits rest) :
    EndsDigits (fraction ++ (exponent ++ rest)) := by
  cases spelled with
  | absent => exact third.endsDigits delimited
  | present _ => exact endsDigits_cons (by decide) _

theorem scanFraction_spelled {fraction exponent rest : List Char} (spelled : Fraction fraction)
    (third : Exponent exponent) (delimited : Delimits rest) :
    scanFraction (fraction ++ (exponent ++ rest)) = some (fraction, exponent ++ rest) := by
  cases spelled with
  | present digits =>
    simp only [List.cons_append, scanFraction, scanDigits_spelled digits (third.endsDigits delimited),
      Option.map_some]
  | absent =>
    rw [List.nil_append]
    unfold scanFraction
    split
    · rename_i shape
      -- Neither an exponent nor what follows the number begins with a point.
      cases third with
      | absent =>
        rw [List.nil_append] at shape
        exact absurd rfl (delimited '.' (by rw [shape, List.head?_cons])).2.1
      | present marked =>
        obtain rfl | rfl := marked <;> cases (List.cons.inj shape).1
    · rfl

theorem scanExponentDigits_spelled {sign digits rest : List Char}
    (signed : sign = [] ∨ sign = ['+'] ∨ sign = ['-']) (spelled : Digits digits)
    (ended : EndsDigits rest) :
    scanExponentDigits (sign ++ digits ++ rest) = some (sign ++ digits, rest) := by
  have scanned := scanDigits_spelled spelled ended
  obtain rfl | rfl | rfl := signed
  · obtain ⟨c, others, rfl, isDigit⟩ := spelled.head
    unfold scanExponentDigits
    split
    · rename_i shape
      rw [(List.cons.inj shape).1] at isDigit
      cases isDigit
    · rename_i shape
      rw [(List.cons.inj shape).1] at isDigit
      cases isDigit
    · exact scanned
  · simp only [List.cons_append, List.nil_append, scanExponentDigits, scanned, Option.map_some]
  · simp only [List.cons_append, List.nil_append, scanExponentDigits, scanned, Option.map_some]

theorem scanExponent_spelled {exponent rest : List Char} (spelled : Exponent exponent)
    (delimited : Delimits rest) : scanExponent (exponent ++ rest) = some (exponent, rest) := by
  cases spelled with
  | absent =>
    rw [List.nil_append]
    unfold scanExponent
    split
    · exact absurd rfl (delimited _ rfl).2.2.1
    · exact absurd rfl (delimited _ rfl).2.2.2
    · rfl
  | present marked signed digits =>
    have scanned := scanExponentDigits_spelled signed digits delimited.endsDigits
    obtain rfl | rfl := marked
    · simp only [List.cons_append, scanExponent, scanned, Option.map_some]
    · simp only [List.cons_append, scanExponent, scanned, Option.map_some]

theorem scanUnsigned_spelled {whole fraction exponent rest : List Char} (first : Whole whole)
    (second : Fraction fraction) (third : Exponent exponent) (delimited : Delimits rest) :
    scanUnsigned (whole ++ fraction ++ exponent ++ rest) =
      some (whole ++ fraction ++ exponent, rest) := by
  have scanned := scanWhole_spelled first (second.endsDigits third delimited)
  simp only [List.append_assoc] at scanned ⊢
  simp only [scanUnsigned, scanned, scanFraction_spelled second third delimited,
    scanExponent_spelled third delimited]
  simp

theorem Whole.head {whole : List Char} (spelled : Whole whole) :
    ∃ c rest, whole = c :: rest ∧ c.isDigit = true := by
  cases spelled with
  | zero => exact ⟨_, _, rfl, rfl⟩
  | positive _ digits => exact digits.head

theorem scanNumber_numeral {spelling rest : List Char} (numeral : Numeral spelling)
    (delimited : Delimits rest) : scanNumber (spelling ++ rest) = some (spelling, rest) := by
  cases numeral with
  | unsigned first second third =>
    have scanned := scanUnsigned_spelled first second third delimited
    unfold scanNumber
    split
    · rename_i negative
      obtain ⟨c, others, rfl, isDigit⟩ := first.head
      rw [(List.cons.inj negative).1] at isDigit
      cases isDigit
    · exact scanned
  | negative first second third =>
    have scanned := scanUnsigned_spelled first second third delimited
    simp only [List.cons_append, scanNumber, scanned, Option.map_some]

theorem Numeral.head {spelling : List Char} (numeral : Numeral spelling) :
    ∃ c rest, spelling = c :: rest ∧ (c.isDigit = true ∨ c = '-') := by
  cases numeral with
  | unsigned first _ _ =>
    obtain ⟨c, others, rfl, isDigit⟩ := first.head
    exact ⟨_, _, rfl, .inl isDigit⟩
  | negative _ _ _ => exact ⟨_, _, rfl, .inr rfl⟩

/-! ## Tokens -/

theorem Blanks.isSpace {text : List Char} (blank : Blanks text) :
    ∀ c ∈ text, Json.isSpace c = true := by
  intro c member
  obtain rfl | rfl | rfl | rfl := blank c member <;> rfl

theorem tokens_space {c : Char} (space : isSpace c = true) (rest : List Char) :
    tokens (c :: rest) = tokens rest := by
  rw [tokens, if_pos space]

theorem tokens_blanks {blanks : List Char} (blank : Blanks blanks) (rest : List Char) :
    tokens (blanks ++ rest) = tokens rest := by
  have spaces := blank.isSpace
  clear blank
  induction blanks with
  | nil => rfl
  | cons c blanks inductionHypothesis =>
    rw [List.cons_append, tokens_space (spaces c List.mem_cons_self)]
    exact inductionHypothesis fun c member => spaces c (List.mem_cons_of_mem _ member)

theorem tokens_token {c : Char} {text rest : List Char} {token : Token} (solid : isSpace c = false)
    (scanned : scanToken (c :: text) = some (token, rest)) :
    tokens (c :: text) = (tokens rest).map (token :: ·) := by
  rw [tokens, if_neg (Bool.eq_false_iff.1 solid)]
  split
  · rename_i refused
    rw [scanned] at refused
    cases refused
  · rename_i answered
    rw [scanned] at answered
    cases answered
    rfl

theorem delimits_blanks {blanks rest : List Char} (blank : Blanks blanks)
    (delimited : Delimits rest) : Delimits (blanks ++ rest) := by
  cases blanks with
  | nil => exact delimited
  | cons c blanks =>
    refine delimits_cons ?_ _
    obtain rfl | rfl | rfl | rfl := blank c List.mem_cons_self <;> decide

theorem tokens_string {name : List Glyph} {text : List Char} (spelled : SpellsString name text)
    (rest : List Char) : tokens (text ++ rest) = (tokens rest).map (.string name :: ·) := by
  cases spelled with
  | quoted spelled =>
    simp only [List.cons_append, List.append_assoc, List.nil_append]
    refine tokens_token (by decide) ?_
    rw [scanToken, scanString_spelled spelled]
    rfl

theorem tokens_number {spelling rest : List Char} (numeral : Numeral spelling)
    (delimited : Delimits rest) :
    tokens (spelling ++ rest) = (tokens rest).map (.number spelling :: ·) := by
  have scanned := scanNumber_numeral numeral delimited
  obtain ⟨c, others, rfl, first⟩ := numeral.head
  have solid : isSpace c = false := by
    cases space : isSpace c with
    | false => rfl
    | true =>
      simp only [isSpace, Bool.or_eq_true, beq_iff_eq] at space
      obtain isDigit | rfl := first
      · obtain ((rfl | rfl) | rfl) | rfl := space <;> cases isDigit
      · revert space
        decide
  rw [List.cons_append] at scanned
  refine tokens_token solid ?_
  show scanToken (c :: (others ++ rest)) = _
  generalize others ++ rest = text at scanned
  -- No mark, no literal and no string begins like a number.
  unfold scanToken
  split
  case h_11 => rw [scanned, Option.map_some]
  all_goals
    rename_i shape
    cases shape
    exact absurd first (by decide)

end RegisterMachine.Json

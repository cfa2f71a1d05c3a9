import RegisterMachine.Proofs.Text.Utf8

/-! # Decoding in chunks

Bytes that arrive in chunks can be decoded chunk by chunk or as a whole. A chunk that ends within a
character ends in a broken piece, and none of the bytes that the character still lacks can begin another
one, so that each is a broken piece of the next chunk. So decoding by chunks never lists less than decoding
the whole (`length_scan_flatten_le`), and if it lists no more, then no character was divided
(`undivided_of_length`). For the bytes of a text it follows that lossy decoding by chunks gives that text
exactly if every chunk has the bytes of a text (`join_decodeLossy_eq_iff`).
-/

namespace RegisterMachine.Text.Utf8

/-! ## One byte -/

/-- If a character is under way, it is continued only by bytes that cannot begin another one. -/
def Continued (under : Option Pending) : Prop :=
  ∀ pending ∈ under, 0x80 ≤ pending.low ∧ pending.high ≤ 0xbf

theorem continued_none : Continued none := nofun

theorem continued_next (after bits : Nat) : Continued (some ⟨after, 0x80, 0xbf, bits⟩) := by
  rintro _ ⟨rfl⟩
  exact ⟨UInt8.le_refl 0x80, UInt8.le_refl 0xbf⟩

theorem continued_start {byte : UInt8} {pending : Pending} (start : lead byte = .start pending) :
    Continued (some pending) := by
  rintro _ ⟨rfl⟩
  simp only [lead] at start
  repeat' split at start
  all_goals cases start
  all_goals
    dsimp only
    decide

theorem lead_of_continuation {byte : UInt8} (least : 0x80 ≤ byte) (most : byte ≤ 0xbf) :
    lead byte = .broken := by
  have least : 0x80 ≤ byte.toNat := UInt8.le_iff_toNat_le.1 least
  have most : byte.toNat ≤ 0xbf := UInt8.le_iff_toNat_le.1 most
  simp only [lead, if_neg (Nat.not_lt.2 least), if_pos (by omega : byte.toNat < 0xc2)]

section Byte

variable {p : Pending} {byte : UInt8}

theorem scan_inside (inside : p.low ≤ byte ∧ byte ≤ p.high) :
    (∃ c, ∀ rest, scan (some p) (byte :: rest) = some c :: scan none rest) ∨
      ∃ after bits, ∀ rest,
        scan (some p) (byte :: rest) = scan (some ⟨after, 0x80, 0xbf, bits⟩) rest := by
  simp only [scan, if_pos inside]
  cases p.after with
  | zero => exact .inl ⟨_, fun rest => rfl⟩
  | succ after => exact .inr ⟨after, _, fun rest => rfl⟩

theorem scan_outside (outside : ¬ (p.low ≤ byte ∧ byte ≤ p.high)) (rest : List UInt8) :
    scan (some p) (byte :: rest) = none :: scan none (byte :: rest) := by
  simp only [scan, if_neg outside]

theorem scan_none_of_inside (continued : Continued (some p)) (inside : p.low ≤ byte ∧ byte ≤ p.high)
    (rest : List UInt8) : scan none (byte :: rest) = none :: scan none rest := by
  obtain ⟨low, high⟩ := continued p rfl
  have broken : lead byte = .broken :=
    lead_of_continuation (UInt8.le_trans low inside.1) (UInt8.le_trans inside.2 high)
  simp only [scan, broken]

end Byte

/-! ## Bytes behind bytes -/

theorem scan_cons (under : Option Pending) (byte : UInt8) :
    ∃ listed after, Continued after ∧
      ∀ rest, scan under (byte :: rest) = listed ++ scan after rest := by
  have fresh : ∃ listed after, Continued after ∧
      ∀ rest, scan none (byte :: rest) = listed ++ scan after rest := by
    cases meaning : lead byte with
    | char c => exact ⟨[some c], none, continued_none, fun rest => by simp [scan, meaning]⟩
    | start pending =>
      exact ⟨[], some pending, continued_start meaning, fun rest => scan_start meaning rest⟩
    | broken => exact ⟨[none], none, continued_none, fun rest => by simp [scan, meaning]⟩
  cases under with
  | none => exact fresh
  | some p =>
    by_cases inside : p.low ≤ byte ∧ byte ≤ p.high
    · obtain ⟨c, same⟩ | ⟨after, bits, same⟩ := scan_inside inside
      · exact ⟨[some c], none, continued_none, same⟩
      · exact ⟨[], _, continued_next after bits, same⟩
    · obtain ⟨listed, after, continued, same⟩ := fresh
      refine ⟨none :: listed, after, continued, fun rest => ?_⟩
      rw [scan_outside inside, same, List.cons_append]

/-- What is listed for the bytes in front does not depend on those behind them, but for a character that
is under way between the two. -/
theorem scan_append (under : Option Pending) (front : List UInt8) (continued : Continued under) :
    ∃ listed after, Continued after ∧
      ∀ rest, scan under (front ++ rest) = listed ++ scan after rest := by
  induction front generalizing under with
  | nil => exact ⟨[], under, continued, fun rest => rfl⟩
  | cons byte front inductionHypothesis =>
    obtain ⟨first, middle, continued, begins⟩ := scan_cons under byte
    obtain ⟨listed, after, continued, goesOn⟩ := inductionHypothesis middle continued
    refine ⟨first ++ listed, after, continued, fun rest => ?_⟩
    rw [List.cons_append, begins, goesOn, List.append_assoc]

theorem scan_divided (front : List UInt8) :
    ∃ listed after, Continued after ∧ scan none front = listed ++ scan after [] ∧
      ∀ rest, scan none (front ++ rest) = listed ++ scan after rest := by
  obtain ⟨listed, after, continued, behind⟩ := scan_append none front continued_none
  have alone := behind []
  rw [List.append_nil] at alone
  exact ⟨listed, after, continued, alone, behind⟩

theorem scan_append_of_whole {front : List UInt8} (whole : none ∉ scan none front)
    (rest : List UInt8) : scan none (front ++ rest) = scan none front ++ scan none rest := by
  obtain ⟨listed, after, _, alone, behind⟩ := scan_divided front
  cases after with
  | none =>
    rw [behind, alone]
    simp [scan]
  | some p =>
    rw [alone] at whole
    simp [scan] at whole

/-- Looking at the bytes afresh saves at most the broken piece that a character under way can be, and it
saves nothing if the character is continued. -/
theorem length_scan_le {p : Pending} (continued : Continued (some p)) (bytes : List UInt8) :
    (scan (some p) bytes).length ≤ (scan none bytes).length + 1 ∧
      (none ∉ scan (some p) bytes → (scan (some p) bytes).length ≤ (scan none bytes).length) := by
  induction bytes generalizing p with
  | nil => exact ⟨Nat.le_refl 1, fun whole => absurd (List.mem_singleton.2 rfl) whole⟩
  | cons byte rest inductionHypothesis =>
    by_cases inside : p.low ≤ byte ∧ byte ≤ p.high
    · have bound : (scan (some p) (byte :: rest)).length ≤ (scan none (byte :: rest)).length := by
        rw [scan_none_of_inside continued inside, List.length_cons]
        obtain ⟨c, same⟩ | ⟨after, bits, same⟩ := scan_inside inside
        · rw [same]
          exact Nat.le_refl _
        · rw [same]
          exact (inductionHypothesis (continued_next after bits)).1
      exact ⟨Nat.le_succ_of_le bound, fun _ => bound⟩
    · rw [scan_outside inside]
      refine ⟨Nat.le_refl _, fun whole => absurd List.mem_cons_self whole⟩

/-! ## Chunks -/

theorem length_scan_flatten_le (chunks : List (List UInt8)) :
    (scan none chunks.flatten).length ≤ (chunks.flatMap (scan none)).length := by
  induction chunks with
  | nil => exact Nat.le_refl 0
  | cons chunk chunks inductionHypothesis =>
    obtain ⟨listed, after, continued, alone, behind⟩ := scan_divided chunk
    rw [List.flatten_cons, List.flatMap_cons, behind, alone]
    simp only [List.length_append]
    cases after with
    | none => simpa [scan] using inductionHypothesis
    | some p =>
      have bound := (length_scan_le continued chunks.flatten).1
      simp only [scan, List.length_singleton]
      omega

/-- A chunk that ends within a character costs a piece more than the whole, and the next chunk cannot save
it. -/
theorem undivided_of_length {chunks : List (List UInt8)} (whole : none ∉ scan none chunks.flatten)
    (few : (chunks.flatMap (scan none)).length ≤ (scan none chunks.flatten).length) :
    ∀ chunk ∈ chunks, none ∉ scan none chunk := by
  induction chunks with
  | nil => nofun
  | cons chunk chunks inductionHypothesis =>
    obtain ⟨listed, after, continued, alone, behind⟩ := scan_divided chunk
    rw [List.flatten_cons, behind, List.mem_append, not_or] at whole
    rw [List.flatten_cons, List.flatMap_cons, behind, alone] at few
    simp only [List.length_append] at few
    cases after with
    | none =>
      have rest := inductionHypothesis whole.2 (by simpa [scan] using few)
      refine List.forall_mem_cons.2 ⟨?_, rest⟩
      rw [alone]
      simpa [scan] using whole.1
    | some p =>
      -- The piece at the end of this chunk is one too many, as the rest lists no less than expected.
      have bound := (length_scan_le continued chunks.flatten).2 whole.2
      have below := length_scan_flatten_le chunks
      simp only [scan, List.length_singleton] at few
      omega

theorem scan_flatten {chunks : List (List UInt8)}
    (undivided : ∀ chunk ∈ chunks, none ∉ scan none chunk) :
    scan none chunks.flatten = chunks.flatMap (scan none) := by
  induction chunks with
  | nil => rfl
  | cons chunk chunks inductionHypothesis =>
    obtain ⟨whole, undivided⟩ := List.forall_mem_cons.1 undivided
    rw [List.flatten_cons, List.flatMap_cons, scan_append_of_whole whole,
      inductionHypothesis undivided]

/-! ## Texts -/

theorem scan_encode (text : String) : scan none (encode text) = text.toList.map some := by
  rw [encode_eq_flatMap, scan_flatMap_encodeChar]

theorem scan_eq_nil {under : Option Pending} {bytes : List UInt8} (nothing : scan under bytes = []) :
    under = none ∧ bytes = [] := by
  induction bytes generalizing under with
  | nil =>
    cases under with
    | none => exact ⟨rfl, rfl⟩
    | some p => cases nothing
  | cons byte rest inductionHypothesis =>
    -- A byte that lists nothing leaves a character under way.
    exfalso
    cases under with
    | none =>
      cases meaning : lead byte with
      | char c => simp [scan, meaning] at nothing
      | start pending =>
        rw [scan_start meaning] at nothing
        cases (inductionHypothesis nothing).1
      | broken => simp [scan, meaning] at nothing
    | some p =>
      by_cases inside : p.low ≤ byte ∧ byte ≤ p.high
      · obtain ⟨c, same⟩ | ⟨after, bits, same⟩ := scan_inside inside
        · rw [same] at nothing
          cases nothing
        · rw [same] at nothing
          cases (inductionHypothesis nothing).1
      · rw [scan_outside inside] at nothing
        cases nothing

theorem nil_or_nil_of_whole {c : Char} {front back : List UInt8}
    (divided : front ++ back = String.utf8EncodeChar c) (whole : none ∉ scan none front) :
    front = [] ∨ back = [] := by
  have both := scan_append_of_whole whole back
  have one := scan_encodeChar c []
  rw [List.append_nil] at one
  rw [divided, one] at both
  have count := congrArg List.length both
  simp only [scan, List.length_cons, List.length_nil, List.length_append] at count
  by_cases empty : scan none front = []
  · exact .inl (scan_eq_nil empty).2
  · have pos := List.length_pos_iff.2 empty
    have nothing : scan none back = [] := List.length_eq_zero_iff.1 (by omega)
    exact .inr (scan_eq_nil nothing).2

theorem exists_division {text : List Char} {front back : List UInt8}
    (divided : front ++ back = text.flatMap String.utf8EncodeChar) (whole : none ∉ scan none front) :
    ∃ n, front = (text.take n).flatMap String.utf8EncodeChar ∧
      back = (text.drop n).flatMap String.utf8EncodeChar := by
  induction text generalizing front with
  | nil =>
    obtain ⟨rfl, rfl⟩ := List.append_eq_nil_iff.1 divided
    exact ⟨0, rfl, rfl⟩
  | cons c text inductionHypothesis =>
    rw [List.flatMap_cons] at divided
    obtain ⟨left, first, rfl⟩ | ⟨left, rfl, rest⟩ := List.append_eq_append_iff.1 divided
    · obtain rfl | rfl := nil_or_nil_of_whole first.symm whole
      · exact ⟨0, rfl, by simpa using first.symm⟩
      · exact ⟨1, by simpa using first.symm, by simp⟩
    · rw [scan_encodeChar] at whole
      obtain ⟨n, before, behind⟩ :=
        inductionHypothesis rest.symm fun broken => whole (List.mem_cons_of_mem _ broken)
      exact ⟨n + 1, by simp [before], by simp [behind]⟩

theorem exists_parts {chunks : List (List UInt8)} {text : List Char}
    (encoded : chunks.flatten = text.flatMap String.utf8EncodeChar)
    (undivided : ∀ chunk ∈ chunks, none ∉ scan none chunk) :
    ∀ chunk ∈ chunks, ∃ part : List Char, chunk = part.flatMap String.utf8EncodeChar := by
  induction chunks generalizing text with
  | nil => nofun
  | cons chunk chunks inductionHypothesis =>
    obtain ⟨whole, undivided⟩ := List.forall_mem_cons.1 undivided
    obtain ⟨n, before, behind⟩ := exists_division encoded whole
    exact List.forall_mem_cons.2 ⟨⟨_, before⟩, inductionHypothesis behind undivided⟩

theorem toList_join_decodeLossy (chunks : List (List UInt8)) :
    (String.join (chunks.map decodeLossy)).toList =
      (chunks.flatMap (scan none)).map (·.getD (Char.ofNat 0xfffd)) := by
  induction chunks with
  | nil => rfl
  | cons chunk chunks inductionHypothesis =>
    rw [List.map_cons, String.join_cons, String.toList_append, inductionHypothesis,
      List.flatMap_cons, List.map_append, decodeLossy, String.toList_ofList]

/-- The bytes of a text are decoded to that text chunk by chunk exactly if no character of it is divided,
so that each chunk has the bytes of a text. -/
theorem join_decodeLossy_eq_iff {chunks : List (List UInt8)} {text : String}
    (encoded : chunks.flatten = encode text) :
    String.join (chunks.map decodeLossy) = text ↔
      ∀ chunk ∈ chunks, ∃ part : String, chunk = encode part := by
  have listed : scan none chunks.flatten = text.toList.map some := by rw [encoded, scan_encode]
  rw [← String.toList_inj, toList_join_decodeLossy]
  constructor
  · intro same chunk member
    have whole : none ∉ scan none chunks.flatten := by simp [listed]
    have few : (chunks.flatMap (scan none)).length = (scan none chunks.flatten).length := by
      rw [listed, List.length_map, ← same, List.length_map]
    have undivided := undivided_of_length whole (Nat.le_of_eq few)
    rw [encode_eq_flatMap] at encoded
    obtain ⟨part, bytes⟩ := exists_parts encoded undivided chunk member
    exact ⟨String.ofList part, by rw [encode_eq_flatMap, String.toList_ofList, bytes]⟩
  · intro parts
    have undivided : ∀ chunk ∈ chunks, none ∉ scan none chunk := by
      intro chunk member
      obtain ⟨part, rfl⟩ := parts chunk member
      simp [scan_encode]
    rw [← scan_flatten undivided, listed, List.map_map]
    exact List.map_id text.toList

end RegisterMachine.Text.Utf8

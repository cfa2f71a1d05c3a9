import RegisterMachine.Proofs.Json.Printer

/-! # Reading records

A record is read by the names of its fields. The order of its members does not matter (`fields?_perm`),
a field may be missing, and an open record may have other members (`fields?_present`); but no field may
be repeated, and a closed record has no members that it does not declare. So a record that was written
with fields of different names is read back with the value of each of them (`fields?_ofFields`).
-/

namespace RegisterMachine.Json

open Text

/-! ## Words -/

theorem word?_ofNat (word : Word) : word? (ofNat word.toNat) = some word := by
  rw [ofNat, decimal, String.toList_ofList]
  simp only [word?, readWord_toDigits (by decide : 2 ≤ 10) (by decide : 10 ≤ 16)]

theorem optionalWord?_ofOption (word? : Option Word) :
    optionalWord? (ofOption (fun word => ofNat word.toNat) word?) = some word? := by
  cases word? with
  | none => rfl
  | some word =>
    show (Json.word? (ofNat word.toNat)).map some = _
    rw [word?_ofNat]
    rfl

/-! ## Members by name -/

theorem text?_glyphsOf (text : String) : text? (glyphsOf text) = some text := by
  have chars : ∀ text : List Char, chars? (text.map .char) = some text := by
    intro text
    induction text with
    | nil => rfl
    | cons c text inductionHypothesis => simp [chars?, inductionHypothesis]
  rw [text?, glyphsOf, chars]
  simp

theorem namedMembers?_fields (fields : List (String × Json)) :
    namedMembers? (fields.map fun (name, value) => (glyphsOf name, value)) = some fields := by
  induction fields with
  | nil => rfl
  | cons field fields inductionHypothesis =>
    simp [namedMembers?, text?_glyphsOf, inductionHypothesis]

theorem length_valuesOf (name : String) (members : List (String × Json)) :
    (valuesOf name members).length = (members.map (·.1)).count name := by
  rw [valuesOf, List.length_map, ← List.countP_eq_length_filter, List.count, List.countP_map]
  rfl

theorem memberOf?_eq {members : List (String × Json)} {name : String}
    (once : (members.map (·.1)).count name ≤ 1) :
    memberOf? members name = some (valuesOf name members).head? := by
  rw [← length_valuesOf] at once
  unfold memberOf?
  split
  · rename_i missing
    rw [missing]
    rfl
  · rename_i value given
    rw [given]
    rfl
  · rename_i several single
    -- Two values or more are left.
    cases values : valuesOf name members with
    | nil => exact absurd values several
    | cons value rest =>
      cases rest with
      | nil => exact absurd values (single value)
      | cons _ _ =>
        rw [values] at once
        simp at once

theorem memberOf?_repeated {members : List (String × Json)} {name : String}
    (repeated : 1 < (members.map (·.1)).count name) : memberOf? members name = none := by
  rw [← length_valuesOf] at repeated
  unfold memberOf?
  split
  · rename_i missing
    simp [missing] at repeated
  · rename_i value given
    simp [given] at repeated
  · rfl

theorem membersOf?_eq {members : List (String × Json)} {names : List String}
    (once : ∀ name ∈ names, (members.map (·.1)).count name ≤ 1) :
    membersOf? members names = some (names.map fun name => (valuesOf name members).head?) := by
  induction names with
  | nil => rfl
  | cons name names inductionHypothesis =>
    have first := memberOf?_eq (once name List.mem_cons_self)
    have others := inductionHypothesis fun name member => once name (List.mem_cons_of_mem _ member)
    simp only [membersOf?, first, others, List.map_cons]

theorem membersOf?_repeated {members : List (String × Json)} {names : List String} {name : String}
    (declared : name ∈ names) (repeated : 1 < (members.map (·.1)).count name) :
    membersOf? members names = none := by
  induction names with
  | nil => cases declared
  | cons first names inductionHypothesis =>
    unfold membersOf?
    rcases List.mem_cons.1 declared with rfl | declared
    · rw [memberOf?_repeated repeated]
    · rw [inductionHypothesis declared]
      cases memberOf? members first <;> rfl

/-- The fields of an object are the values of its members by name, unless a declared name is repeated or
a closed record has a member that is not declared. -/
theorem fields?_object {closed : Bool} {members : List (String × Json)} {names : List String}
    (known : closed = true → ∀ member ∈ members, member.1 ∈ names)
    (once : ∀ name ∈ names, (members.map (·.1)).count name ≤ 1) :
    fields? closed names (ofFields members) =
      some (names.map fun name => (valuesOf name members).head?) := by
  have accepted : (closed && members.any fun member => !names.contains member.1) = false := by
    cases closed with
    | false => rfl
    | true =>
      rw [Bool.true_and, List.any_eq_false]
      intro member inside
      simpa using known rfl member inside
  simp only [fields?, ofFields, namedMembers?_fields, accepted, Bool.false_eq_true, if_false]
  exact membersOf?_eq once

theorem fields?_repeated {closed : Bool} {members : List (String × Json)} {names : List String}
    {name : String} (declared : name ∈ names) (repeated : 1 < (members.map (·.1)).count name) :
    fields? closed names (ofFields members) = none := by
  simp only [fields?, ofFields, namedMembers?_fields, membersOf?_repeated declared repeated]
  exact ite_self none

theorem fields?_unknown {members : List (String × Json)} {names : List String}
    {member : String × Json} (inside : member ∈ members) (unknown : member.1 ∉ names) :
    fields? true names (ofFields members) = none := by
  have refused : (members.any fun member => !names.contains member.1) = true := by
    rw [List.any_eq_true]
    exact ⟨member, inside, by simpa using unknown⟩
  simp only [fields?, ofFields, namedMembers?_fields, refused, Bool.and_self, if_true]

/-! ## The order of members -/

theorem memberOf?_perm {members others : List (String × Json)} (order : members.Perm others)
    (name : String) : memberOf? members name = memberOf? others name := by
  have values : (valuesOf name members).Perm (valuesOf name others) := (order.filter _).map _
  unfold memberOf?
  -- Lists of at most one value are equal if they hold the same values.
  match given : valuesOf name members, valuesOf name others, values with
  | [], _, values => rw [List.nil_perm.1 values]
  | [value], _, values => rw [List.singleton_perm.1 values]
  | _ :: _ :: _, [], values => exact absurd values.length_eq (by simp)
  | _ :: _ :: _, [_], values => exact absurd values.length_eq (by simp)
  | _ :: _ :: _, _ :: _ :: _, _ => rfl

theorem membersOf?_perm {members others : List (String × Json)} (order : members.Perm others)
    (names : List String) : membersOf? members names = membersOf? others names := by
  induction names with
  | nil => rfl
  | cons name names inductionHypothesis =>
    rw [membersOf?, membersOf?, memberOf?_perm order, inductionHypothesis]

theorem fields?_perm {members others : List (String × Json)} (order : members.Perm others)
    (closed : Bool) (names : List String) :
    fields? closed names (ofFields members) = fields? closed names (ofFields others) := by
  simp only [fields?, ofFields, namedMembers?_fields, membersOf?_perm order, order.any_eq]

theorem fields?_repeated_of_perm {closed : Bool} {members others : List (String × Json)}
    {names : List String} {name : String} {value : Json} (declared : name ∈ names)
    (given : name ∈ others.map (·.1)) (order : members.Perm ((name, value) :: others)) :
    fields? closed names (ofFields members) = none := by
  have before := List.count_pos_iff.2 given
  rw [fields?_perm order]
  refine fields?_repeated declared ?_
  rw [List.map_cons, List.count_cons_self]
  omega

/-! ## Fields that may be missing -/

/-- The members for those fields that have a value. -/
def present : List (String × Option Json) → List (String × Json)
  | [] => []
  | (_, none) :: fields => present fields
  | (name, some value) :: fields => (name, value) :: present fields

theorem valuesOf_append (name : String) (members others : List (String × Json)) :
    valuesOf name (members ++ others) = valuesOf name members ++ valuesOf name others := by
  rw [valuesOf, List.filter_append, List.map_append]
  rfl

theorem valuesOf_of_absent {name : String} {members : List (String × Json)}
    (absent : ∀ member ∈ members, member.1 ≠ name) : valuesOf name members = [] := by
  have none : members.filter (fun member => member.1 == name) = [] :=
    List.filter_eq_nil_iff.2 fun member inside same => absent member inside (beq_iff_eq.1 same)
  rw [valuesOf, none, List.map_nil]

theorem declared_of_present {fields : List (String × Option Json)} {member : String × Json}
    (inside : member ∈ present fields) : member.1 ∈ fields.map (·.1) := by
  fun_induction present fields with
  | case1 => cases inside
  | case2 name fields inductionHypothesis =>
    exact List.mem_cons_of_mem _ (inductionHypothesis inside)
  | case3 name value fields inductionHypothesis =>
    rcases List.mem_cons.1 inside with rfl | inside
    · exact List.mem_cons_self
    · exact List.mem_cons_of_mem _ (inductionHypothesis inside)

theorem valuesOf_present_of_fresh {fields : List (String × Option Json)} {name : String}
    (fresh : name ∉ fields.map (·.1)) : valuesOf name (present fields) = [] :=
  valuesOf_of_absent fun _ inside same => fresh (same ▸ declared_of_present inside)

theorem valuesOf_present {fields : List (String × Option Json)}
    (different : (fields.map (·.1)).Nodup) {field : String × Option Json} (listed : field ∈ fields) :
    valuesOf field.1 (present fields) = field.2.toList := by
  fun_induction present fields with
  | case1 => cases listed
  | case2 name fields inductionHypothesis =>
    obtain ⟨fresh, different⟩ := List.nodup_cons.1 different
    rcases List.mem_cons.1 listed with rfl | listed
    · exact valuesOf_present_of_fresh fresh
    · exact inductionHypothesis different listed
  | case3 name value fields inductionHypothesis =>
    obtain ⟨fresh, different⟩ := List.nodup_cons.1 different
    rcases List.mem_cons.1 listed with rfl | listed
    · have later := valuesOf_present_of_fresh fresh
      unfold valuesOf at later ⊢
      rw [List.filter_cons_of_pos (by simp), List.map_cons, later]
      rfl
    · have other : name ≠ field.1 := fun same =>
        fresh (List.mem_map.2 ⟨field, listed, same.symm⟩)
      have later := inductionHypothesis different listed
      unfold valuesOf at later ⊢
      rw [List.filter_cons_of_neg (by simpa using other), later]

/-- A record is read by the names of its fields in any order. An open one may have other members. -/
theorem fields?_present {closed : Bool} {fields : List (String × Option Json)}
    {members others : List (String × Json)} (different : (fields.map (·.1)).Nodup)
    (accepted : closed = true → others = [])
    (unknown : ∀ member ∈ others, member.1 ∉ fields.map (·.1))
    (order : members.Perm (others ++ present fields)) :
    fields? closed (fields.map (·.1)) (ofFields members) = some (fields.map (·.2)) := by
  have values : ∀ field ∈ fields,
      valuesOf field.1 (others ++ present fields) = field.2.toList := by
    intro field listed
    have none : valuesOf field.1 others = [] := valuesOf_of_absent fun member inside same =>
      unknown member inside (same ▸ List.mem_map_of_mem listed)
    rw [valuesOf_append, none, valuesOf_present different listed, List.nil_append]
  rw [fields?_perm order, fields?_object]
  · rw [List.map_map]
    congr 1
    refine List.map_congr_left fun field listed => ?_
    rw [Function.comp_apply, values field listed, Option.head?_toList]
  · intro closed member inside
    rw [accepted closed, List.nil_append] at inside
    exact declared_of_present inside
  · intro name declared
    obtain ⟨field, listed, rfl⟩ := List.mem_map.1 declared
    rw [← length_valuesOf, values field listed]
    exact Option.length_toList_le

/-- A record is read back by the names of its fields, whether or not other fields would be refused. -/
theorem fields?_ofFields {fields : List (String × Json)} {names : List String}
    (declared : fields.map (·.1) = names) (different : names.Nodup) (closed : Bool) :
    fields? closed names (ofFields fields) = some (fields.map fun field => some field.2) := by
  have all : present (fields.map fun field => (field.1, some field.2)) = fields := by
    clear declared
    induction fields with
    | nil => rfl
    | cons field fields inductionHypothesis =>
      rw [List.map_cons, present, inductionHypothesis]
  have named : (fields.map fun field => (field.1, some field.2)).map (·.1) = names := by
    rw [← declared, List.map_map]
    rfl
  have order : fields.Perm ([] ++ present (fields.map fun field => (field.1, some field.2))) := by
    rw [all]
    exact .refl _
  have answer := fields?_present (named ▸ different) (fun (_ : closed = true) => rfl) nofun order
  rw [named, List.map_map] at answer
  exact answer

theorem fieldOr?_map {α : Type} {read : Json → Option α} {write : α → Json}
    (readsBack : ∀ value, read (write value) = some value) (default : α) (value? : Option α) :
    fieldOr? default read (value?.map write) = some (value?.getD default) := by
  cases value? with
  | none => rfl
  | some value => exact readsBack value

/-! ## Plain records -/

theorem plain_ofFields {fields : List (String × Json)} (each : ∀ field ∈ fields, Plain field.2) :
    Plain (ofFields fields) := by
  refine .object ?_ ?_
  · intro member inside
    obtain ⟨field, _, rfl⟩ := List.mem_map.1 inside
    exact ⟨field.1.toList, rfl⟩
  · intro member inside
    obtain ⟨field, present, rfl⟩ := List.mem_map.1 inside
    exact each field present

end RegisterMachine.Json

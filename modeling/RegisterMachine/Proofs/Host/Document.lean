import RegisterMachine.Proofs.Host.Configuration

/-! # Configuration documents

What a configuration document gives is said apart from how it is written. It may give any of the known
members; its text has them in any order, laid out in any way. Reading the text answers what is first
wrong with the configuration that has the given values and the defaults for the rest, or else that
configuration (`ofText_document`).

The record of special registers skips members that it does not know, the document itself refuses them.
The names of members are texts: a string with half a surrogate pair is none.
-/

namespace RegisterMachine

open Json (ofFields)

/-! ## The record of special registers -/

/-- What a record of special registers gives, with the members in it that are skipped. -/
structure RolesRecord where
  pc : Option Word
  sp : Option Word
  skipped : List (String × Json)
  unknown : ∀ member ∈ skipped, member.1 ∉ ProposedRoles.fieldNames

namespace RolesRecord

def fields (r : RolesRecord) : List (String × Option Json) :=
  [("pc_register", r.pc.map (.ofNat ·.toNat)), ("sp_register", r.sp.map (.ofNat ·.toNat))]

def members (r : RolesRecord) : List (String × Json) :=
  r.skipped ++ Json.present r.fields

def roles (r : RolesRecord) : ProposedRoles where
  pc := r.pc.getD 0
  sp := r.sp.getD 1

/-- The record with further members, all of them in any order. -/
inductive Written (r : RolesRecord) (further : List (String × Json)) : Json → Prop where
  | inOrder {members : List (String × Json)} (order : members.Perm (further ++ r.members)) :
      Written r further (ofFields members)

end RolesRecord

/-! ## The document -/

structure Document where
  roles : Option RolesRecord
  memorySize : Option Word
  loadAddress : Option Word
  maxCycles : Option (Option Word)

namespace Document

def fields (d : Document) (roles : Option Json) : List (String × Option Json) :=
  [("cpu", roles), ("memory_size", d.memorySize.map (.ofNat ·.toNat)),
    ("load_address", d.loadAddress.map (.ofNat ·.toNat)),
    ("max_cycles", d.maxCycles.map (Json.ofOption (.ofNat ·.toNat)))]

def configuration (d : Document) : Configuration where
  roles := (d.roles.map RolesRecord.roles).getD { pc := 0, sp := 1 }
  memorySize := d.memorySize.getD 65536
  loadAddress := d.loadAddress.getD 0
  maxCycles := d.maxCycles.getD none

/-- The document with further members, also in its record of special registers, all of them in any
order. -/
inductive Written (d : Document) (further inner : List (String × Json)) : Json → Prop where
  | inOrder {roles : Option Json} {members : List (String × Json)}
      (record : Option.Rel (RolesRecord.Written · inner) d.roles roles)
      (order : members.Perm (further ++ Json.present (d.fields roles))) :
      Written d further inner (ofFields members)

def names (d : Document) : List String :=
  (Json.present (d.fields (d.roles.map fun r => ofFields r.members))).map (·.1)

end Document

def Configuration.verdict (c : Configuration) : Except ConfigurationError Configuration :=
  if 16 ≤ c.roles.pc.toNat then .error (.roles (.outOfRange c.roles.pc.toNat))
  else if 16 ≤ c.roles.sp.toNat then .error (.roles (.outOfRange c.roles.sp.toNat))
  else if c.roles.pc = c.roles.sp then .error (.roles (.shared c.roles.pc.toNat))
  else if c.memorySize = 0 then .error .emptyMemory
  else .ok c

/-! ## Reading the record of special registers -/

namespace RolesRecord

variable {r : RolesRecord} {further : List (String × Json)} {document : Json}

theorem ofJson?_written (unknown : ∀ member ∈ further, member.1 ∉ ProposedRoles.fieldNames)
    (written : r.Written further document) : ProposedRoles.ofJson? document = some r.roles := by
  cases written with
  | @inOrder written order =>
    rw [members, ← List.append_assoc] at order
    have others : ∀ member ∈ further ++ r.skipped, member.1 ∉ r.fields.map (·.1) := by
      intro member inside
      rcases List.mem_append.1 inside with inside | inside
      · exact unknown member inside
      · exact r.unknown member inside
    have different : (r.fields.map (·.1)).Nodup := (by decide : ProposedRoles.fieldNames.Nodup)
    have read : Json.fields? false ProposedRoles.fieldNames (ofFields written) =
        some (r.fields.map (·.2)) :=
      Json.fields?_present different (fun (closed : false = true) => nomatch closed) others order
    simp only [ProposedRoles.ofJson?, read, fields, List.map_cons, List.map_nil,
      Json.fieldOr?_map Json.word?_ofNat]
    rfl

theorem ofJson?_repeated {name : String} {value : Json} (known : name ∈ ProposedRoles.fieldNames)
    (given : name ∈ r.members.map (·.1)) (written : r.Written [(name, value)] document) :
    ProposedRoles.ofJson? document = none := by
  cases written with
  | inOrder order =>
    rw [ProposedRoles.ofJson?, Json.fields?_repeated_of_perm known given order]

end RolesRecord

/-! ## Reading the document -/

namespace Document

variable {d : Document} {roles : Option Json} {members : List (String × Json)}

theorem fields?_members (order : members.Perm (Json.present (d.fields roles))) :
    Json.fields? true Configuration.fieldNames (ofFields members) =
      some ((d.fields roles).map (·.2)) := by
  have different : ((d.fields roles).map (·.1)).Nodup :=
    (by decide : Configuration.fieldNames.Nodup)
  have order : members.Perm ([] ++ Json.present (d.fields roles)) := order
  exact Json.fields?_present different (fun _ => rfl) nofun order

theorem fieldOr?_roles {inner : List (String × Json)}
    (unknown : ∀ member ∈ inner, member.1 ∉ ProposedRoles.fieldNames)
    (record : Option.Rel (RolesRecord.Written · inner) d.roles roles) :
    Json.fieldOr? {} ProposedRoles.ofJson? roles = some d.configuration.roles := by
  unfold configuration
  generalize d.roles = given at record
  cases record with
  | none => rfl
  | some written => exact RolesRecord.ofJson?_written unknown written

/-- Unknown members of the record of special registers change nothing. -/
theorem ofJson?_written {inner : List (String × Json)} {document : Json}
    (unknown : ∀ member ∈ inner, member.1 ∉ ProposedRoles.fieldNames)
    (written : d.Written [] inner document) :
    Configuration.ofJson? document = some d.configuration := by
  cases written with
  | inOrder record order =>
    simp only [Configuration.ofJson?, fields?_members order, fields, List.map_cons, List.map_nil,
      fieldOr?_roles unknown record, Json.fieldOr?_map Json.word?_ofNat,
      Json.fieldOr?_map Json.optionalWord?_ofOption]
    rfl

theorem names_eq {inner : List (String × Json)}
    (record : Option.Rel (RolesRecord.Written · inner) d.roles roles) :
    (Json.present (d.fields roles)).map (·.1) = d.names := by
  unfold names
  generalize d.roles = given at record
  cases record with
  | none => rfl
  | some _ => rfl

theorem ofJson?_refused {name : String} {value : Json} {inner : List (String × Json)}
    {document : Json} (refused : name ∈ d.names ∨ name ∉ Configuration.fieldNames)
    (written : d.Written [(name, value)] inner document) :
    Configuration.ofJson? document = none := by
  cases written with
  | @inOrder roles members record order =>
    have read : Json.fields? true Configuration.fieldNames (ofFields members) = none := by
      rcases refused with given | unknown
      · rw [← names_eq record] at given
        obtain ⟨member, inside, rfl⟩ := List.mem_map.1 given
        exact Json.fields?_repeated_of_perm (Json.declared_of_present inside) given order
      · exact Json.fields?_unknown (order.symm.subset List.mem_cons_self) unknown
    rw [Configuration.ofJson?, read]

theorem ofJson?_repeated {r : RolesRecord} {name : String} {value : Json} {document : Json}
    (present : d.roles = some r) (known : name ∈ ProposedRoles.fieldNames)
    (given : name ∈ r.members.map (·.1)) (written : d.Written [] [(name, value)] document) :
    Configuration.ofJson? document = none := by
  cases written with
  | inOrder record order =>
    rw [present] at record
    cases record with
    | some written =>
      have refused := RolesRecord.ofJson?_repeated known given written
      simp only [Configuration.ofJson?, fields?_members order, fields, List.map_cons, List.map_nil,
        Json.fieldOr?, refused]
      rfl

end Document

/-! ## The verdict -/

theorem Configuration.validate_eq (c : Configuration) :
    c.validate.map (fun _ => c) = c.verdict := by
  have sameIndex : c.roles.pc.toNat = c.roles.sp.toNat ↔ c.roles.pc = c.roles.sp :=
    UInt64.toNat_inj
  unfold validate ProposedRoles.check Roles.ofIndices verdict
  simp only [registerCount]
  grind [Except.map]

theorem Configuration.ofText_eq {document : Json} {text : String}
    (spelled : Json.Spells document text.toList) :
    ofText text = (ofJson? document).elim (.error .malformed) verdict := by
  rw [ofText, parse?, Json.parse?_of_spells spelled, Option.bind_some]
  cases ofJson? document with
  | none => rfl
  | some c =>
    rw [Option.elim_some, ← c.validate_eq]
    dsimp only
    cases c.validate <;> rfl

/-- A text that spells a configuration document, with its members in any order, is answered by the
verdict on the configuration that the document gives. With one more member it is malformed if that
member is repeated or not known. A further member in the record of special registers changes nothing if
it is not known there, and makes the document malformed if it is repeated. -/
theorem Configuration.ofText_document (d : Document) (document : Json) (text : String)
    (spelled : Json.Spells document text.toList) :
    (d.Written [] [] document → ofText text = d.configuration.verdict) ∧
    (∀ name value, d.Written [(name, value)] [] document →
      name ∈ d.names ∨ name ∉ fieldNames → ofText text = .error .malformed) ∧
    (∀ r name value, d.roles = some r → d.Written [] [(name, value)] document →
      (name ∉ ProposedRoles.fieldNames → ofText text = d.configuration.verdict) ∧
      (name ∈ ProposedRoles.fieldNames → name ∈ r.members.map (·.1) →
        ofText text = .error .malformed)) := by
  rw [ofText_eq spelled]
  refine ⟨fun written => ?_, fun name value written refused => ?_,
    fun r name value present written => ⟨fun unknown => ?_, fun known given => ?_⟩⟩
  · rw [Document.ofJson?_written (fun _ inside => absurd inside List.not_mem_nil) written]
    rfl
  · rw [Document.ofJson?_refused refused written]
    rfl
  · rw [Document.ofJson?_written (by simpa using unknown) written]
    rfl
  · rw [Document.ofJson?_repeated present known given written]
    rfl

/-- Gives the program counter and a limit, with a note. -/
def shortDocument : Document where
  roles := some
    { pc := some 7, sp := none, skipped := [("note", .null)], unknown := by decide }
  memorySize := none
  loadAddress := none
  maxCycles := some (some 100)

/-- The short document with its members in another order and with further ones. -/
def shortText (further inner : List (String × Json)) : Json :=
  ofFields (further ++ [("max_cycles", .ofNat 100),
    ("cpu", ofFields (inner ++ [("pc_register", .ofNat 7), ("note", .null)]))])

theorem shortText_written (further inner : List (String × Json)) :
    shortDocument.Written further inner (shortText further inner) :=
  .inOrder (.some (.inOrder (.append_left inner (.swap _ _ _))))
    (.append_left further (.swap _ _ _))

theorem shortText_spelled {further inner : List (String × Json)}
    (outside : ∀ member ∈ further, member.2 = .null) (inside : ∀ member ∈ inner, member.2 = .null) :
    Json.Spells (shortText further inner) (shortText further inner).pretty.toList := by
  refine Json.spells_pretty (Json.plain_ofFields fun member present => ?_)
  simp only [List.mem_append, List.mem_cons, List.not_mem_nil, or_false] at present
  rcases present with present | rfl | rfl
  · rw [outside member present]
    exact .null
  · exact .number _
  · refine Json.plain_ofFields fun member present => ?_
    simp only [List.mem_append, List.mem_cons, List.not_mem_nil, or_false] at present
    rcases present with present | rfl | rfl
    · rw [inside member present]
      exact .null
    · exact .number _
    · exact .null

/-- It is read as it stands, but not with a second limit or a second program counter. -/
theorem Configuration.shortDocument_read :
    ofText (shortText [] []).pretty = .ok { roles := { pc := 7, sp := 1 }, maxCycles := some 100 } ∧
      ofText (shortText [("max_cycles", .null)] []).pretty = .error .malformed ∧
      ofText (shortText [] [("pc_register", .null)]).pretty = .error .malformed := by
  obtain ⟨plain, _⟩ := ofText_document shortDocument (shortText [] []) _
    (shortText_spelled (by simp) (by simp))
  obtain ⟨_, outer, _⟩ := ofText_document shortDocument (shortText [("max_cycles", .null)] []) _
    (shortText_spelled (by simp) (by simp))
  obtain ⟨_, _, inner⟩ := ofText_document shortDocument (shortText [] [("pc_register", .null)]) _
    (shortText_spelled (by simp) (by simp))
  refine ⟨?_, ?_, ?_⟩
  · rw [plain (shortText_written [] [])]
    rfl
  · exact outer _ _ (shortText_written _ []) (.inl (by decide))
  · exact (inner _ _ _ rfl (shortText_written [] _)).2 (by decide) (by decide)

end RegisterMachine

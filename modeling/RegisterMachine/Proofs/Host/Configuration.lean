import RegisterMachine.Host.Configuration
import RegisterMachine.Proofs.Json.Record

/-! # Reading configurations back

The document of a configuration describes that configuration (`parse?_toText`), whether or not it can
be used. So reading it gives the configuration back, or the complaint about it that checking the
configuration itself has.
-/

namespace RegisterMachine

theorem ProposedRoles.ofJson?_toJson (proposed : ProposedRoles) :
    ofJson? proposed.toJson = some proposed := by
  have fields : Json.fields? false fieldNames proposed.toJson =
      some [some (.ofNat proposed.pc.toNat), some (.ofNat proposed.sp.toNat)] := by
    refine Json.fields?_ofFields ?_ ?_ false
    · rfl
    · decide
  simp only [ofJson?, fields, Json.fieldOr?, Json.word?_ofNat]
  rfl

theorem ProposedRoles.plain_toJson (proposed : ProposedRoles) : Json.Plain proposed.toJson := by
  refine Json.plain_ofFields fun field member => ?_
  simp only [List.mem_cons, List.not_mem_nil, or_false] at member
  rcases member with rfl | rfl
  · exact .number _
  · exact .number _

namespace Configuration

theorem ofJson?_toJson (c : Configuration) : ofJson? c.toJson = some c := by
  have fields : Json.fields? true fieldNames c.toJson =
      some [some c.roles.toJson, some (.ofNat c.memorySize.toNat),
        some (.ofNat c.loadAddress.toNat),
        some (Json.ofOption (fun limit => .ofNat limit.toNat) c.maxCycles)] := by
    refine Json.fields?_ofFields ?_ ?_ true
    · rfl
    · decide
  simp only [ofJson?, fields, Json.fieldOr?, Json.word?_ofNat, Json.optionalWord?_ofOption,
    ProposedRoles.ofJson?_toJson]
  rfl

theorem plain_toJson (c : Configuration) : Json.Plain c.toJson := by
  refine Json.plain_ofFields fun field member => ?_
  simp only [List.mem_cons, List.not_mem_nil, or_false] at member
  rcases member with rfl | rfl | rfl | rfl
  · exact c.roles.plain_toJson
  · exact .number _
  · exact .number _
  · cases c.maxCycles with
    | none => exact .null
    | some limit => exact .number _

/-- The document of a configuration describes it, even if it cannot be used. -/
theorem parse?_toText (c : Configuration) : parse? c.toText = some c := by
  rw [parse?, toText, Json.parse?_pretty c.plain_toJson]
  exact ofJson?_toJson c

theorem validate_ne_malformed (c : Configuration) : c.validate ≠ .error .malformed := by
  unfold validate
  split
  · intro same
    cases same
  · split
    · intro same
      cases same
    · intro same
      cases same

/-- Reading the document of a configuration gives that configuration if it is valid, and otherwise the
complaint about it. The document itself is never at fault. -/
theorem ofText_toText (c : Configuration) :
    ofText c.toText = c.validate.map (fun _ => c) ∧ ofText c.toText ≠ .error .malformed := by
  have answer : ofText c.toText = c.validate.map (fun _ => c) := by
    simp only [ofText, parse?_toText]
    cases c.validate <;> rfl
  refine ⟨answer, ?_⟩
  rw [answer]
  cases checked : c.validate with
  | ok _ =>
    intro same
    cases same
  | error e =>
    intro same
    cases same
    exact validate_ne_malformed c checked

end Configuration

end RegisterMachine

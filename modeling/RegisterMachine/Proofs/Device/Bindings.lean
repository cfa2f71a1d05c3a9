import Mathlib.Data.List.Sort
import Mathlib.Data.Set.Card
import RegisterMachine.Inspection
import RegisterMachine.Proofs.Device.Table

/-! # Bindings of a table

A descriptor is served by the device that was bound to it last, in the state in which the uses since then
have left it, unless the binding was taken away again (`BoundBy`). What happens under other descriptors
makes no difference: the part of a history that concerns one descriptor is the history that would have
been without the rest (`transcript_filter`).

Both come from the fact that an operation reads and writes a single place of the table. `meet` says what
it does to the place of its own descriptor, whatever the table is, and `performed` that it does nothing
else.
-/

namespace RegisterMachine

variable {α : Type}

/-! ## Operations -/

inductive TableOperation (α : Type) where
  | bind (descriptor : Word) (device : α)
  | unbind (descriptor : Word)
  -- Looks the descriptor up and moves one byte. The byte given here is for an output device.
  | access (view : Registers) (descriptor : Word) (byte : UInt8)
deriving DecidableEq

inductive TableAnswer where
  | bound
  | freed (direction : Option Direction)
  | unresolved (error : DeviceError)
  | received (result : Except DeviceError UInt8)
  | sent (result : Except DeviceError Unit)
deriving DecidableEq

namespace TableOperation

def descriptor : TableOperation α → Word
  | bind descriptor _ | unbind descriptor | access _ descriptor _ => descriptor

/-- The operation decides which device a descriptor has. -/
def Rebinds (d : Word) : TableOperation α → Prop
  | bind descriptor _ | unbind descriptor => descriptor = d
  | access _ _ _ => False

/-- The byte that the operation gave to a device, if the device accepted it. -/
def given : TableOperation α → TableAnswer → List UInt8
  | access _ _ byte, .sent (.ok ()) => [byte]
  | _, _ => []

def usesOf (d : Word) (operations : List (TableOperation α)) : List UInt8 :=
  operations.filterMap fun
    | access _ descriptor byte => if descriptor = d then some byte else none
    | _ => none

/-- The last operation that decides about the descriptor has bound the device to it, and `since` are the
operations behind it. -/
structure BoundBy (d : Word) (device : α) (operations since : List (TableOperation α)) : Prop where
  bound : ∃ before, operations = before ++ .bind d device :: since
  kept : ∀ operation ∈ since, ¬ operation.Rebinds d

theorem BoundBy.behind {d : Word} {device : α} {operations since : List (TableOperation α)}
    (bound : BoundBy d device operations since) (first : TableOperation α) :
    BoundBy d device (first :: operations) since := by
  obtain ⟨before, rfl⟩ := bound.bound
  exact ⟨⟨first :: before, rfl⟩, bound.kept⟩

end TableOperation

section Peripheral

variable [Peripheral α]

/-- One use of a device: an input device gives a byte, an output device is given one. -/
def Peripheral.use (device : α) (byte : UInt8) : TableAnswer × α :=
  match direction device with
  | .input => (receive device).map .received id
  | .output => (send device byte).map .sent id

theorem Peripheral.direction_use (device : α) (byte : UInt8) :
    direction (use device byte).2 = direction device := by
  unfold use
  split
  · exact direction_receive device
  · exact direction_send device byte

def Peripheral.afterUses (device : α) (bytes : List UInt8) : α :=
  bytes.foldl (fun device byte => (use device byte).2) device

theorem Peripheral.direction_afterUses (device : α) (bytes : List UInt8) :
    direction (afterUses device bytes) = direction device := by
  induction bytes generalizing device with
  | nil => rfl
  | cons byte bytes inductionHypothesis =>
    exact (inductionHypothesis _).trans (direction_use device byte)

/-- What the operation does at the place of its descriptor. -/
def TableOperation.meet : TableOperation α → Option α → TableAnswer × Option α
  | bind _ device, _ => (.bound, some device)
  | unbind _, place => (.freed (place.map Peripheral.direction), none)
  | access _ descriptor _, none => (.unresolved (.noDevice descriptor), none)
  | access _ _ byte, some device => (Peripheral.use device byte).map id some

end Peripheral

namespace DeviceTable

open TableOperation

section Unbind

variable {d other : Word}

theorem find?_unbind_self (t : DeviceTable α) : (t.unbind d).2.find? d = none := by
  simp [unbind, find?]

theorem find?_unbind_ne (t : DeviceTable α) (apart : other ≠ d) :
    (t.unbind d).2.find? other = t.find? other := by
  simp only [unbind, find?, List.find?_filter]
  congr 2
  funext entry
  by_cases found : entry.1 = other <;> simp [found, apart]

end Unbind

variable [Peripheral α]

def perform (t : DeviceTable α) : TableOperation α → TableAnswer × DeviceTable α
  | .bind descriptor device => (.bound, t.bind descriptor device)
  | .unbind descriptor => (t.unbind descriptor).map (.freed <| ·.map Peripheral.direction) id
  | .access view descriptor byte =>
    match DeviceBus.resolve t view descriptor with
    | (.error e, t) => (.unresolved e, t)
    | (.ok .input, t) => (DeviceBus.receive t descriptor).map .received id
    | (.ok .output, t) => (DeviceBus.send t descriptor byte).map .sent id

def performAll (t : DeviceTable α) (operations : List (TableOperation α)) : DeviceTable α :=
  operations.foldl (fun t operation => (t.perform operation).2) t

def transcript (t : DeviceTable α) :
    List (TableOperation α) → List (TableOperation α × TableAnswer)
  | [] => []
  | operation :: operations =>
    (operation, (t.perform operation).1) :: (t.perform operation).2.transcript operations

def writtenTo (t : DeviceTable α) (d : Word) : List UInt8 :=
  (t.written.toList.filter (·.1 = d)).map (·.2)

/-! ## One operation -/

/-- The operation has the effect of `meet` at the place of its descriptor, and no other effect. -/
structure Performed (t : DeviceTable α) (operation : TableOperation α)
    (result : TableAnswer × DeviceTable α) : Prop where
  answer : result.1 = (operation.meet (t.find? operation.descriptor)).1
  own : result.2.find? operation.descriptor = (operation.meet (t.find? operation.descriptor)).2
  others : ∀ other, other ≠ operation.descriptor → result.2.find? other = t.find? other
  written : result.2.written.toList =
    t.written.toList ++ (operation.given result.1).map (operation.descriptor, ·)

section Access

variable {t : DeviceTable α} {view : Registers} {d : Word} {byte : UInt8} {device : α}

theorem perform_access_free (free : t.find? d = none) :
    t.perform (.access view d byte) = (.unresolved (.noDevice d), t) := by
  simp only [perform, DeviceBus.resolve, free]

theorem perform_access_input (found : t.find? d = some device)
    (kind : Peripheral.direction device = .input) :
    t.perform (.access view d byte) =
      (.received (Peripheral.receive device).1, t.bind d (Peripheral.receive device).2) := by
  simp only [perform, DeviceBus.resolve, DeviceBus.receive, found, kind]
  rfl

theorem perform_access_output (found : t.find? d = some device)
    (kind : Peripheral.direction device = .output) :
    t.perform (.access view d byte) = (DeviceBus.send t d byte).map .sent id := by
  simp only [perform, DeviceBus.resolve, found, kind]

/-- What a device accepts is logged, and apart from the log its new state takes its place. -/
theorem send_bound (byte : UInt8) (found : t.find? d = some device) :
    (DeviceBus.send t d byte).1 = (Peripheral.send device byte).1 ∧
      ∀ other, (DeviceBus.send t d byte).2.find? other =
        (t.bind d (Peripheral.send device byte).2).find? other := by
  simp only [DeviceBus.send, found]
  rcases Peripheral.send device byte with ⟨_ | _, next⟩ <;> exact ⟨rfl, fun _ => rfl⟩

theorem performed_access (t : DeviceTable α) (view : Registers) (d : Word) (byte : UInt8) :
    Performed t (.access view d byte) (t.perform (.access view d byte)) := by
  cases found : t.find? d with
  | none =>
    rw [perform_access_free found]
    refine ⟨?_, ?_, fun _ _ => rfl, (List.append_nil _).symm⟩
    · simp only [descriptor, meet, found]
    · simp only [descriptor, meet, found]
  | some device =>
    cases kind : Peripheral.direction device with
    | input =>
      rw [perform_access_input found kind]
      refine ⟨?_, ?_, fun other apart => find?_bind_ne t apart _, (List.append_nil _).symm⟩
      · simp only [descriptor, meet, found, Peripheral.use, kind]
        rfl
      · simp only [descriptor, meet, found, Peripheral.use, kind]
        exact find?_bind_self t d _
    | output =>
      obtain ⟨answer, place⟩ := send_bound byte found
      rw [perform_access_output found kind]
      refine ⟨?_, ?_, fun other apart => (place other).trans (find?_bind_ne t apart _), ?_⟩
      · simp only [descriptor, meet, found, Peripheral.use, kind]
        exact congrArg TableAnswer.sent answer
      · simp only [descriptor, meet, found, Peripheral.use, kind]
        exact (place d).trans (find?_bind_self t d _)
      · rcases sent : DeviceBus.send t d byte with ⟨_ | _, t'⟩
        · exact written_send sent
        · exact written_send sent

end Access

theorem performed (t : DeviceTable α) (operation : TableOperation α) :
    Performed t operation (t.perform operation) := by
  cases operation with
  | bind d device =>
    exact ⟨rfl, find?_bind_self t d device, fun _ apart => find?_bind_ne t apart device,
      (List.append_nil _).symm⟩
  | unbind d =>
    exact ⟨rfl, find?_unbind_self t, fun _ apart => find?_unbind_ne t apart,
      (List.append_nil _).symm⟩
  | access view d byte => exact performed_access t view d byte

section Descriptor

variable {t : DeviceTable α} {d : Word} {device : α}

theorem served_of_found (found : t.find? d = some device) :
    (∀ view, DeviceBus.resolve t view d = (.ok (Peripheral.direction device), t)) ∧
      (∀ view byte, (t.perform (.access view d byte)).1 = (Peripheral.use device byte).1) ∧
      (t.perform (.unbind d)).1 = .freed (some (Peripheral.direction device)) := by
  refine ⟨fun view => ?_, fun view byte => ?_, ?_⟩
  · simp only [DeviceBus.resolve, found]
  · refine (performed t (.access view d byte)).answer.trans ?_
    simp only [descriptor, meet, found]
    rfl
  · refine (performed t (.unbind d)).answer.trans ?_
    simp only [descriptor, meet, found, Option.map_some]

theorem refused_of_free (free : t.find? d = none) :
    (∀ view, DeviceBus.resolve t view d = (.error (.noDevice d), t)) ∧
      (∀ view byte, t.perform (.access view d byte) = (.unresolved (.noDevice d), t)) ∧
      (t.perform (.unbind d)).1 = .freed none := by
  refine ⟨fun view => ?_, fun view byte => perform_access_free free, ?_⟩
  · simp only [DeviceBus.resolve, free]
  · refine (performed t (.unbind d)).answer.trans ?_
    simp only [descriptor, meet, free, Option.map_none]

end Descriptor

/-! ## A history seen from one descriptor -/

section History

variable {t t' : DeviceTable α} {d : Word} {device : α}
  {operations since : List (TableOperation α)}

/-- What concerns a descriptor is what would have happened without the operations on others. -/
theorem transcript_filter (same : t.find? d = t'.find? d) (operations : List (TableOperation α)) :
    (t.transcript operations).filter (·.1.descriptor = d) =
      t'.transcript (operations.filter (·.descriptor = d)) := by
  -- The tables may differ elsewhere: that they agree at `d` is what every operation keeps.
  induction operations generalizing t t' with
  | nil => rfl
  | cons operation operations inductionHypothesis =>
    have here := performed t operation
    by_cases own : operation.descriptor = d
    · have there := performed t' operation
      have answers : (t.perform operation).1 = (t'.perform operation).1 := by
        rw [here.answer, there.answer, own, same]
      have places : (t.perform operation).2.find? d = (t'.perform operation).2.find? d := by
        rw [← own, here.own, there.own, own, same]
      simp only [transcript, List.filter_cons, own, decide_true, if_true, answers,
        inductionHypothesis places]
    · have place : (t.perform operation).2.find? d = t'.find? d :=
        (here.others d (Ne.symm own)).trans same
      simp only [transcript, List.filter_cons, own, decide_false, Bool.false_eq_true, if_false,
        inductionHypothesis place]

/-- The bytes that a descriptor has accepted stand in the part of the history that concerns it. -/
theorem writtenTo_performAll (t : DeviceTable α) (d : Word) (operations : List (TableOperation α)) :
    (t.performAll operations).writtenTo d = t.writtenTo d ++
      ((t.transcript operations).filter (·.1.descriptor = d)).flatMap fun (operation, answer) =>
        operation.given answer := by
  induction operations generalizing t with
  | nil => exact (List.append_nil _).symm
  | cons operation operations inductionHypothesis =>
    have here := (performed t operation).written
    have rest : (t.performAll (operation :: operations)).writtenTo d =
        ((t.perform operation).2.performAll operations).writtenTo d := rfl
    rw [rest, inductionHypothesis, writtenTo, here, List.filter_append, List.map_append]
    by_cases own : operation.descriptor = d
    · simp [transcript, own, writtenTo, List.filter_map, Function.comp_def]
    · simp [transcript, own, writtenTo]

theorem performAll_append (t : DeviceTable α) (earlier later : List (TableOperation α)) :
    t.performAll (earlier ++ later) = (t.performAll earlier).performAll later :=
  List.foldl_append

theorem find?_performAll_since (found : t.find? d = some device)
    (kept : ∀ operation ∈ since, ¬ operation.Rebinds d) :
    (t.performAll since).find? d = some (Peripheral.afterUses device (usesOf d since)) := by
  induction since generalizing t device with
  | nil => exact found
  | cons operation since inductionHypothesis =>
    have here := performed t operation
    obtain ⟨first, rest⟩ := List.forall_mem_cons.1 kept
    have aside (apart : d ≠ operation.descriptor) :
        (t.perform operation).2.find? d = some device := (here.others d apart).trans found
    cases operation with
    | bind descriptor _ | unbind descriptor =>
      exact inductionHypothesis (aside fun same => first same.symm) rest
    | access view descriptor byte =>
      by_cases own : descriptor = d
      · subst own
        have used : (t.perform (.access view descriptor byte)).2.find? descriptor =
            some (Peripheral.use device byte).2 := by
          refine here.own.trans ?_
          simp only [TableOperation.descriptor, meet, found]
          rfl
        have uses : usesOf descriptor (.access view descriptor byte :: since) =
            byte :: usesOf descriptor since := by simp [usesOf]
        rw [uses]
        exact inductionHypothesis used rest
      · have uses : usesOf d (.access view descriptor byte :: since) = usesOf d since := by
          simp [usesOf, own]
        rw [uses]
        exact inductionHypothesis (aside fun same => own same.symm) rest

theorem find?_of_boundBy (bound : BoundBy d device operations since) :
    (t.performAll operations).find? d =
      some (Peripheral.afterUses device (usesOf d since)) := by
  obtain ⟨before, rfl⟩ := bound.bound
  have here : (t.performAll (before ++ [.bind d device])).find? d = some device := by
    rw [performAll_append]
    exact find?_bind_self (t.performAll before) d device
  rw [List.append_cons, performAll_append]
  exact find?_performAll_since here bound.kept

/-- A descriptor that has a device was bound to it, or had one and kept it. -/
theorem boundBy_or_of_find? (found : (t.performAll operations).find? d ≠ none) :
    (∃ device since, BoundBy d device operations since) ∨
      t.find? d ≠ none ∧ ∀ operation ∈ operations, ¬ operation.Rebinds d := by
  -- A later binding decides, so the first operation counts only if no other one rebinds.
  induction operations generalizing t with
  | nil => exact .inr ⟨found, nofun⟩
  | cons operation operations inductionHypothesis =>
    obtain ⟨device, since, bound⟩ | ⟨earlier, kept⟩ := inductionHypothesis found
    · exact .inl ⟨device, since, bound.behind operation⟩
    have here := performed t operation
    have aside (apart : d ≠ operation.descriptor) : t.find? d ≠ none := by
      rwa [← here.others d apart]
    cases operation with
    | bind descriptor device =>
      by_cases own : descriptor = d
      · subst own
        exact .inl ⟨device, operations, ⟨[], rfl⟩, kept⟩
      · exact .inr ⟨aside fun same => own same.symm, List.forall_mem_cons.2 ⟨own, kept⟩⟩
    | unbind descriptor =>
      by_cases own : descriptor = d
      · subst own
        exact absurd here.own earlier
      · exact .inr ⟨aside fun same => own same.symm, List.forall_mem_cons.2 ⟨own, kept⟩⟩
    | access view descriptor byte =>
      refine .inr ⟨?_, List.forall_mem_cons.2 ⟨id, kept⟩⟩
      by_cases own : descriptor = d
      · subst own
        intro free
        have unmoved : (t.perform (.access view descriptor byte)).2 = t := by
          rw [perform_access_free free]
        exact earlier ((congrArg (find? · descriptor) unmoved).trans free)
      · exact aside fun same => own same.symm

theorem find?_eq_none_iff :
    (performAll {} operations : DeviceTable α).find? d = none ↔
      ¬ ∃ device since, BoundBy d device operations since := by
  constructor
  · rintro free ⟨device, since, bound⟩
    rw [find?_of_boundBy bound] at free
    cases free
  · intro unbound
    by_contra found
    obtain bound | ⟨earlier, _⟩ := boundBy_or_of_find? found
    · exact unbound bound
    · exact earlier rfl

end History

/-! ## Bound descriptors -/

omit [Peripheral α] in
theorem mem_descriptors_iff {t : DeviceTable α} {d : Word} :
    d ∈ t.descriptors ↔ t.find? d ≠ none := by
  simp [descriptors, find?]

omit [Peripheral α] in
theorem ascending_descriptors (t : DeviceTable α) : t.descriptors.Pairwise (· < ·) :=
  List.pairwise_map.2 t.ascending

omit [Peripheral α] in
theorem size_eq_ncard (t : DeviceTable α) : t.size = {d | t.find? d ≠ none}.ncard := by
  have distinct : t.descriptors.Nodup :=
    t.ascending_descriptors.imp fun less => UInt64.ne_of_lt less
  have listed : {d | t.find? d ≠ none} = (t.descriptors.toFinset : Set Word) := by
    ext d
    simp [mem_descriptors_iff]
  rw [listed, Set.ncard_coe_finset, List.toFinset_card_of_nodup distinct, descriptors,
    List.length_map, size]

omit [Peripheral α] in
theorem deviceTable_eq (t : DeviceTable α) :
    Inspection.deviceTable t =
      "DeviceTable \x7b descriptors: [" ++ ", ".intercalate (t.descriptors.map toString) ++
        "] \x7d" := by
  have opening : "DeviceTable \x7b descriptors: [" =
      "DeviceTable" ++ " \x7b " ++ ("descriptors" ++ ": " ++ "[") := rfl
  have closing : "] \x7d" = "]" ++ " \x7d" := rfl
  have numerals : t.descriptors.map toString =
      t.descriptors.map fun d => Text.decimal d.toNat := rfl
  rw [opening, closing, numerals]
  simp only [Inspection.deviceTable, Inspection.record, Inspection.words, Inspection.list,
    List.map_cons, List.map_nil, String.intercalate_singleton, String.append_assoc]

/-- Behind every history a descriptor has the device that was bound to it last and not taken away since, in
the state that its uses have left, and no device otherwise; the bound descriptors are counted and listed in
ascending order; and what is answered under a descriptor, as well as what its devices have accepted, depends
on the operations that name it and on no others. -/
theorem latest_binding_serves (operations : List (TableOperation α)) :
    let t : DeviceTable α := performAll {} operations
    (∀ d device since, BoundBy d device operations since →
      (∀ view, DeviceBus.resolve t view d = (.ok (Peripheral.direction device), t)) ∧
      (∀ view byte, (t.perform (.access view d byte)).1 =
        (Peripheral.use (Peripheral.afterUses device (usesOf d since)) byte).1) ∧
      (t.perform (.unbind d)).1 = .freed (some (Peripheral.direction device))) ∧
    (∀ d, (¬ ∃ device since, BoundBy d device operations since) →
      (∀ view, DeviceBus.resolve t view d = (.error (.noDevice d), t)) ∧
      (∀ view byte, t.perform (.access view d byte) = (.unresolved (.noDevice d), t)) ∧
      (t.perform (.unbind d)).1 = .freed none) ∧
    (t.size = {d | ∃ device since, BoundBy d device operations since}.ncard ∧
      ∃ listed : List Word, listed.Pairwise (· < ·) ∧
        (∀ d, d ∈ listed ↔ ∃ device since, BoundBy d device operations since) ∧
        Inspection.deviceTable t =
          "DeviceTable \x7b descriptors: [" ++ ", ".intercalate (listed.map toString) ++ "] \x7d") ∧
    ∀ d,
      let own := operations.filter (·.descriptor = d)
      (transcript {} operations).filter (·.1.descriptor = d) =
          transcript ({} : DeviceTable α) own ∧
        t.writtenTo d = (performAll ({} : DeviceTable α) own).writtenTo d := by
  intro t
  have bound_iff (d : Word) :
      t.find? d ≠ none ↔ ∃ device since, BoundBy d device operations since :=
    find?_eq_none_iff.not_left
  refine ⟨?bound, ?free, ⟨?counted, ?listed⟩, ?apart⟩
  case bound =>
    intro d device since bound
    have found : t.find? d = some (Peripheral.afterUses device (usesOf d since)) :=
      find?_of_boundBy bound
    have served := served_of_found found
    rwa [Peripheral.direction_afterUses] at served
  case free =>
    intro d unbound
    exact refused_of_free (find?_eq_none_iff.2 unbound)
  case counted =>
    rw [size_eq_ncard]
    simp only [bound_iff]
  case listed =>
    refine ⟨t.descriptors, t.ascending_descriptors, fun d => ?_, t.deviceTable_eq⟩
    rw [mem_descriptors_iff, bound_iff]
  case apart =>
    intro d own
    have alone : own.filter (·.descriptor = d) = own := by simp [own]
    have whole := transcript_filter (d := d) (rfl : ({} : DeviceTable α).find? d = _) operations
    have part := transcript_filter (rfl : ({} : DeviceTable α).find? d = _) own
    refine ⟨whole, ?_⟩
    rw [writtenTo_performAll, writtenTo_performAll, whole, part, alone]

/-- A reader that is replaced between its uses, and a writer that is used in between and then taken
away. The descriptor that is bound first is the greatest. -/
def replacedReader : List (TableOperation Device) :=
  [.bind 12 (.sink none "full"), .bind 5 (.source [1, 2] "closed"), .bind 6 (.sink (some 1) "full"),
   .access .cleared 5 0, .access .cleared 6 0x41, .bind 5 (.source [8, 9] "closed"),
   .access .cleared 6 0x42, .access .cleared 5 0, .unbind 6]

/-- The new reader gives its second byte next, and the descriptor of the writer is free. -/
theorem replacedReader_serves :
    let t : DeviceTable := performAll {} replacedReader
    (t.perform (.access .cleared 5 0)).1 = .received (.ok 9) ∧
      (t.perform (.unbind 5)).1 = .freed (some .input) ∧
      (t.perform (.access .cleared 6 0x43)).1 = .unresolved (.noDevice 6) ∧
      t.size = {d : Word | d = 5 ∨ d = 12}.ncard ∧
      Inspection.deviceTable t = "DeviceTable \x7b descriptors: [5, 12] \x7d" ∧
      t.writtenTo 6 = [0x41] := by
  obtain ⟨bound, free, ⟨counted, listed, ascending, members, listing⟩, apart⟩ :=
    latest_binding_serves replacedReader
  have reader : BoundBy 5 (.source [8, 9] "closed") replacedReader
      [.access .cleared 6 0x42, .access .cleared 5 0, .unbind 6] :=
    ⟨⟨replacedReader.take 5, rfl⟩, by simp [Rebinds]⟩
  have gone : ¬ ∃ device since, BoundBy 6 device replacedReader since :=
    find?_eq_none_iff.1 (by decide)
  have left (d : Word) :
      (∃ device since, BoundBy d device replacedReader since) ↔ d = 5 ∨ d = 12 := by
    have descriptors : (performAll {} replacedReader : DeviceTable).descriptors = [5, 12] := by
      decide
    rw [← find?_eq_none_iff.not_left, ← ne_eq, ← mem_descriptors_iff, descriptors]
    simp
  have inOrder : listed = [5, 12] := by
    refine ascending.eq_of_mem_iff (by decide) fun d => ?_
    rw [members, left]
    simp
  obtain ⟨_, given, kind⟩ := bound 5 _ _ reader
  obtain ⟨_, refused, _⟩ := free 6 gone
  refine ⟨(given .cleared 0).trans rfl, kind, by rw [refused], ?_, ?_, (apart 6).2.trans (by decide)⟩
  · simpa only [left] using counted
  · rw [listing, inOrder]
    decide

end DeviceTable

end RegisterMachine

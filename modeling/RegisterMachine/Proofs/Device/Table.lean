import RegisterMachine.Device.Table
import RegisterMachine.Proofs.Machine.Strings

/-! # Devices of a table

What a table finds under a descriptor after another device was bound, and what becomes of a table when
bytes are given to one of its output devices. The device takes a first part of the bytes
(`Device.taken`); `delivered_sendAll` says that the table shows just that: the bytes in its log, the
device with as much room less, and every other device untouched.
-/

namespace RegisterMachine

namespace DeviceTable

/-! ## Looking up -/

section Lookup

variable {α : Type}

theorem find?_insertEntry_self (descriptor : Word) (device : α) (entries : List (Word × α)) :
    ((insertEntry descriptor device entries).find? (·.1 == descriptor)).map (·.2) =
      some device := by
  induction entries with
  | nil => simp [insertEntry]
  | cons entry rest inductionHypothesis =>
    unfold insertEntry
    split_ifs with smaller equal
    · simp
    · simp
    · simpa [Ne.symm equal] using inductionHypothesis

theorem find?_insertEntry_ne {descriptor other : Word} (apart : other ≠ descriptor)
    (device : α) (entries : List (Word × α)) :
    (insertEntry descriptor device entries).find? (·.1 == other) =
      entries.find? (·.1 == other) := by
  induction entries with
  | nil => simp [insertEntry, Ne.symm apart]
  | cons entry rest inductionHypothesis =>
    unfold insertEntry
    split_ifs with smaller equal
    · simp [Ne.symm apart]
    · -- The entry that is replaced has the same descriptor, so it is not the one looked for.
      simp [← equal, Ne.symm apart]
    · by_cases found : entry.1 = other
      · simp [found]
      · simpa [found] using inductionHypothesis

theorem find?_bind_self (t : DeviceTable α) (descriptor : Word) (device : α) :
    (t.bind descriptor device).find? descriptor = some device :=
  find?_insertEntry_self descriptor device t.entries

theorem find?_bind_ne (t : DeviceTable α) {descriptor other : Word} (apart : other ≠ descriptor)
    (device : α) : (t.bind descriptor device).find? other = t.find? other :=
  congrArg (Option.map Prod.snd) (find?_insertEntry_ne apart device t.entries)

/-- The log grows by the byte that a device accepts, and by nothing else. -/
theorem written_send [Peripheral α] {t t' : DeviceTable α} {descriptor : Word} {byte : UInt8}
    {result : Except DeviceError Unit} (sent : DeviceBus.send t descriptor byte = (result, t')) :
    t'.written.toList = t.written.toList ++
      match result with
      | .ok () => [(descriptor, byte)]
      | .error _ => [] := by
  cases found : t.find? descriptor with
  | none =>
    simp only [DeviceBus.send, found] at sent
    cases sent
    simp
  | some device =>
    rcases answered : Peripheral.send device byte with ⟨_ | _, device'⟩
    · simp only [DeviceBus.send, found, answered] at sent
      cases sent
      simp [bind]
    · simp only [DeviceBus.send, found, answered] at sent
      cases sent
      simp

end Lookup

end DeviceTable

/-! ## Output devices -/

/-- The part of a string that an output device takes before it fails. -/
def Device.taken (left : Option Nat) (bytes : List UInt8) : List UInt8 :=
  match left with
  | none => bytes
  | some count => bytes.take count

/-- The second table is what is left of the first when its output device with a descriptor has taken
bytes. -/
structure Delivered (t : DeviceTable) (descriptor : Word) (left : Option Nat) (reason : String)
    (bytes : List UInt8) (t' : DeviceTable) : Prop where
  written : t'.written.toList = t.written.toList ++ bytes.map (descriptor, ·)
  device : t'.find? descriptor = some (.sink (left.map (· - bytes.length)) reason)
  others : ∀ other, other ≠ descriptor → t'.find? other = t.find? other

namespace Delivered

variable {t t' t'' : DeviceTable} {descriptor : Word} {left : Option Nat} {reason : String}

theorem refl (bound : t.find? descriptor = some (.sink left reason)) :
    Delivered t descriptor left reason [] t where
  written := by simp
  device := by
    rw [bound]
    cases left <;> rfl
  others _ _ := rfl

theorem cons {byte : UInt8} {bytes : List UInt8}
    (first : Delivered t descriptor left reason [byte] t')
    (rest : Delivered t' descriptor (left.map (· - 1)) reason bytes t'') :
    Delivered t descriptor left reason (byte :: bytes) t'' where
  written := by
    rw [rest.written, first.written]
    simp
  device := by
    rw [rest.device]
    cases left with
    | none => rfl
    | some count =>
      simp only [Option.map_some, List.length_cons]
      congr 3
      omega
  others other apart := by rw [rest.others other apart, first.others other apart]

end Delivered

namespace DeviceTable

variable {t t' : DeviceTable} {descriptor : Word} {left : Option Nat} {reason : String}

theorem send_room (bound : t.find? descriptor = some (.sink left reason)) (room : left ≠ some 0)
    (byte : UInt8) :
    ∃ t', DeviceBus.send t descriptor byte = (.ok (), t') ∧
      Delivered t descriptor left reason [byte] t' := by
  obtain ⟨device, taken, kept⟩ : ∃ device, (Device.sink left reason).send = (.ok (), device) ∧
      device = .sink (left.map (· - 1)) reason := by
    cases left with
    | none => exact ⟨_, rfl, rfl⟩
    | some count =>
      cases count with
      | zero => exact absurd rfl room
      | succ count => exact ⟨_, rfl, rfl⟩
  refine ⟨{ t.bind descriptor device with written := t.written.push (descriptor, byte) }, ?_, ?_⟩
  · have sent : Peripheral.send (Device.sink left reason) byte = (.ok (), device) := taken
    simp only [DeviceBus.send, bound, sent]
  · constructor
    · simp
    · show (t.bind descriptor device).find? descriptor = _
      rw [find?_bind_self, kept]
      rfl
    · intro other apart
      exact find?_bind_ne t apart device

theorem send_full (bound : t.find? descriptor = some (.sink (some 0) reason)) (byte : UInt8) :
    ∃ t', DeviceBus.send t descriptor byte = (.error (.writeFailed reason), t') ∧
      Delivered t descriptor (some 0) reason [] t' := by
  refine ⟨t.bind descriptor (.sink (some 0) reason), ?_, ?_⟩
  · have refused : Peripheral.send (Device.sink (some 0) reason) byte =
        (.error (.writeFailed reason), .sink (some 0) reason) := rfl
    simp only [DeviceBus.send, bound, refused]
  · constructor
    · simp [bind]
    · exact find?_bind_self t descriptor _
    · intro other apart
      exact find?_bind_ne t apart _

/-- Giving bytes to an output device delivers those that it takes, and fails if some are left. -/
theorem delivered_sendAll (bound : t.find? descriptor = some (.sink left reason))
    (bytes : List UInt8) :
    ∃ t', sendAll descriptor bytes t =
        (if (Device.taken left bytes).length < bytes.length then .error (.writeFailed reason)
          else .ok (), t') ∧
      Delivered t descriptor left reason (Device.taken left bytes) t' := by
  induction bytes generalizing t left with
  | nil =>
    have nothing : Device.taken left [] = [] := by
      cases left <;> simp [Device.taken]
    rw [nothing]
    exact ⟨t, rfl, .refl bound⟩
  | cons byte bytes inductionHypothesis =>
    by_cases room : left = some 0
    · subst room
      obtain ⟨t', refused, delivered⟩ := send_full bound byte
      refine ⟨t', ?_, delivered⟩
      simp [sendAll, refused, Device.taken]
    · obtain ⟨t', sent, first⟩ := send_room bound room byte
      obtain ⟨t'', answer, rest⟩ := inductionHypothesis first.device
      have more : Device.taken left (byte :: bytes) =
          byte :: Device.taken (left.map (· - 1)) bytes := by
        cases left with
        | none => rfl
        | some count =>
          cases count with
          | zero => exact absurd rfl room
          | succ count => rfl
      refine ⟨t'', ?_, ?_⟩
      · simp only [sendAll, sent, more, List.length_cons, Nat.succ_lt_succ_iff]
        exact answer
      · rw [more]
        exact first.cons rest

end DeviceTable

end RegisterMachine

import RegisterMachine.Device.Bus

/-! # Device tables

Any number of devices under descriptors of the host's choice. A device is whatever has a direction and
moves single bytes (`Peripheral`): an input device gives bytes, an output device takes them, and either
can fail and can change with every byte. Binding a descriptor replaces the device it had.

The table is kept in ascending order of descriptors, which is part of the type. It also keeps a log of
every byte an output device ever accepted.

The devices of experiments (`Device`) are input devices that yield given bytes and then fail, and output
devices that accept a given number of bytes, or any number, and then fail.
-/

namespace RegisterMachine

/-! ## Devices -/

/-- A device, with its state, as a table sees it. Moving a byte may change its state but not its
direction. -/
class Peripheral (α : Type) where
  direction : α → Direction
  receive : α → Except DeviceError UInt8 × α
  send : α → UInt8 → Except DeviceError Unit × α
  direction_receive (device : α) : direction (receive device).2 = direction device
  direction_send (device : α) (byte : UInt8) : direction (send device byte).2 = direction device

inductive Device where
  /-- Yields the bytes in order, then fails with the reason. -/
  | source (bytes : List UInt8) (reason : String)
  /-- Accepts the number of bytes left, or any number, then fails with the reason. -/
  | sink (left : Option Nat) (reason : String)
deriving DecidableEq, Repr

namespace Device

def direction : Device → Direction
  | .source _ _ => .input
  | .sink _ _ => .output

def receive : Device → Except DeviceError UInt8 × Device
  | .source (byte :: bytes) reason => (.ok byte, .source bytes reason)
  | .source [] reason => (.error (.readFailed reason), .source [] reason)
  | .sink left reason => (.error (.readFailed reason), .sink left reason)

def send : Device → Except DeviceError Unit × Device
  | .sink none reason => (.ok (), .sink none reason)
  | .sink (some (left + 1)) reason => (.ok (), .sink (some left) reason)
  | .sink (some 0) reason => (.error (.writeFailed reason), .sink (some 0) reason)
  | .source bytes reason => (.error (.writeFailed reason), .source bytes reason)

instance : Peripheral Device where
  direction := direction
  receive := receive
  send device _ := device.send
  direction_receive device := by
    rcases device with ⟨_ | _, _⟩ | _ <;> rfl
  direction_send device _ := by
    rcases device with _ | ⟨_ | _ | _, _⟩ <;> rfl

end Device

/-! ## Entries -/

def Ascending {α : Type} (entries : List (Word × α)) : Prop :=
  entries.Pairwise fun x y => x.1 < y.1

structure DeviceTable (α : optParam Type Device) where
  entries : List (Word × α) := []
  /-- Descriptors ascend strictly, so each is bound at most once. -/
  ascending : Ascending entries := by exact List.Pairwise.nil
  /-- Every byte that an output device accepted, with its descriptor, the oldest first. -/
  written : Array (Word × UInt8) := #[]

namespace DeviceTable

variable {α : Type}

/-- Puts a device at its place among ascending entries, replacing one with the same descriptor. -/
def insertEntry (descriptor : Word) (device : α) : List (Word × α) → List (Word × α)
  | [] => [(descriptor, device)]
  | entry :: rest =>
    if descriptor < entry.1 then (descriptor, device) :: entry :: rest
    else if descriptor = entry.1 then (descriptor, device) :: rest
    else entry :: insertEntry descriptor device rest

theorem mem_insertEntry {descriptor : Word} {device : α} {entries : List (Word × α)}
    {x : Word × α} (h : x ∈ insertEntry descriptor device entries) :
    x = (descriptor, device) ∨ x ∈ entries := by
  induction entries with
  | nil => simpa [insertEntry] using h
  | cons entry rest ih =>
    unfold insertEntry at h
    split at h
    · simpa using h
    · split at h
      · rcases List.mem_cons.1 h with h | h
        · exact .inl h
        · exact .inr (List.mem_cons_of_mem _ h)
      · rcases List.mem_cons.1 h with h | h
        · exact .inr (h ▸ List.mem_cons_self)
        · rcases ih h with h | h
          · exact .inl h
          · exact .inr (List.mem_cons_of_mem _ h)

theorem Ascending.insertEntry {entries : List (Word × α)} (h : Ascending entries)
    (descriptor : Word) (device : α) :
    Ascending (DeviceTable.insertEntry descriptor device entries) := by
  induction entries with
  | nil => exact List.pairwise_singleton _ _
  | cons entry rest ih =>
    obtain ⟨hentry, hrest⟩ := List.pairwise_cons.1 h
    unfold DeviceTable.insertEntry
    split
    · rename_i hlt
      refine List.pairwise_cons.2 ⟨fun x hx => ?_, h⟩
      rcases List.mem_cons.1 hx with rfl | hx
      · exact hlt
      · exact UInt64.lt_trans hlt (hentry x hx)
    · rename_i hnlt
      split
      · rename_i heq
        subst heq
        exact List.pairwise_cons.2 ⟨hentry, hrest⟩
      · rename_i hne
        refine List.pairwise_cons.2 ⟨fun x hx => ?_, ih hrest⟩
        rcases mem_insertEntry hx with rfl | hx
        · exact UInt64.lt_of_le_of_ne (UInt64.not_lt.1 hnlt) (fun e => hne e.symm)
        · exact hentry x hx

/-! ## Bindings -/

/-- Binds a descriptor to a device, in place of the one it had. -/
def bind (t : DeviceTable α) (descriptor : Word) (device : α) : DeviceTable α :=
  { t with
    entries := insertEntry descriptor device t.entries
    ascending := Ascending.insertEntry t.ascending descriptor device }

def find? (t : DeviceTable α) (descriptor : Word) : Option α :=
  (t.entries.find? fun entry => entry.1 == descriptor).map (·.2)

/-- Frees a descriptor and hands back the device it had. -/
def unbind (t : DeviceTable α) (descriptor : Word) : Option α × DeviceTable α :=
  (t.find? descriptor,
   { t with
     entries := t.entries.filter fun entry => entry.1 != descriptor
     ascending := List.Pairwise.filter _ t.ascending })

def descriptors (t : DeviceTable α) : List Word :=
  t.entries.map (·.1)

def size (t : DeviceTable α) : Nat :=
  t.entries.length

/-! ## The bus -/

instance [Peripheral α] : DeviceBus (DeviceTable α) where
  resolve t _ descriptor :=
    match t.find? descriptor with
    | some device => (.ok (Peripheral.direction device), t)
    | none => (.error (.noDevice descriptor), t)
  receive t descriptor :=
    match t.find? descriptor with
    | some device =>
      match Peripheral.receive device with
      | (result, device) => (result, t.bind descriptor device)
    | none => (.error (.noDevice descriptor), t)
  send t descriptor byte :=
    match t.find? descriptor with
    | some device =>
      match Peripheral.send device byte with
      | (.ok (), device) =>
        (.ok (), { t.bind descriptor device with written := t.written.push (descriptor, byte) })
      | (.error e, device) => (.error e, t.bind descriptor device)
    | none => (.error (.noDevice descriptor), t)

end DeviceTable

end RegisterMachine

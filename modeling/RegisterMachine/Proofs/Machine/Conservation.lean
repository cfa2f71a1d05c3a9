import RegisterMachine.Proofs.Machine.DeviceInvariant
import RegisterMachine.Proofs.Machine.HostView
import RegisterMachine.Proofs.Machine.Service

/-! # A console loses no byte

What passes a console is noted by a recorder in front of it, which no cycle notices
(`deviceMap_bus`). Whatever happens to a console, its input and its output balance against what went in
and what came out (`Balances`), and so does a whole history of such happenings: nothing is lost, repeated
or put in another order.
-/

namespace RegisterMachine

variable {capacity : Nat} {δ : Type}

/-! ## What passes devices -/

/-- A byte that has passed a device, seen from the one who asked for it. -/
inductive Passage where
  | received (byte : UInt8)
  | sent (byte : UInt8)
deriving DecidableEq, Repr

def receivedBytes (log : List Passage) : List UInt8 :=
  log.filterMap fun
    | .received byte => some byte
    | .sent _ => none

def sentBytes (log : List Passage) : List UInt8 :=
  log.filterMap fun
    | .received _ => none
    | .sent byte => some byte

instance [DeviceBus δ] : DeviceBus (Recorded δ Passage) where
  resolve recorded view descriptor :=
    (DeviceBus.resolve recorded.bus view descriptor).map id (⟨·, recorded.log⟩)
  receive recorded descriptor :=
    match DeviceBus.receive recorded.bus descriptor with
    | (.ok byte, bus) => (.ok byte, ⟨bus, recorded.log ++ [.received byte]⟩)
    | (.error e, bus) => (.error e, ⟨bus, recorded.log⟩)
  send recorded descriptor byte :=
    match DeviceBus.send recorded.bus descriptor byte with
    | (.ok (), bus) => (.ok (), ⟨bus, recorded.log ++ [.sent byte]⟩)
    | (.error e, bus) => (.error e, ⟨bus, recorded.log⟩)

theorem deviceMap_bus [DeviceBus δ] : DeviceMap (Recorded.bus : Recorded δ Passage → δ) where
  resolve _ _ _ := rfl
  receive recorded descriptor := by
    simp only [DeviceBus.receive]
    rcases DeviceBus.receive recorded.bus descriptor with ⟨_ | byte, bus⟩ <;> rfl
  send recorded descriptor byte := by
    simp only [DeviceBus.send]
    rcases DeviceBus.send recorded.bus descriptor byte with ⟨_ | _, bus⟩ <;> rfl

/-! ## Uses of devices -/

inductive DeviceCall where
  | receive
  | send (byte : UInt8)
deriving DecidableEq, Repr

def DeviceCall.direction : DeviceCall → Direction
  | .receive => .input
  | .send _ => .output

/-- What moves bytes through devices: a cycle of the processor, or the host, which looks a device up and
makes calls to it. Calls that the device does not offer are not made. -/
inductive Use where
  | cycle
  | calls (view : Registers) (descriptor : Word) (calls : List DeviceCall)
deriving DecidableEq, Repr

section Host

variable [DeviceBus δ]

def DeviceCall.perform (descriptor : Word) (devices : δ) : DeviceCall → δ
  | .receive => (DeviceBus.receive devices descriptor).2
  | .send byte => (DeviceBus.send devices descriptor byte).2

def performCalls (view : Registers) (descriptor : Word) (calls : List DeviceCall) (devices : δ) : δ :=
  match DeviceBus.resolve devices view descriptor with
  | (.error _, devices) => devices
  | (.ok direction, devices) =>
    (calls.filter (·.direction = direction)).foldl (DeviceCall.perform descriptor) devices

theorem DeviceMap.foldl_perform {δ' : Type} [DeviceBus δ'] {f : δ → δ'} (unnoticed : DeviceMap f)
    (descriptor : Word) (calls : List DeviceCall) (devices : δ) :
    calls.foldl (DeviceCall.perform descriptor) (f devices) =
      f (calls.foldl (DeviceCall.perform descriptor) devices) := by
  refine List.foldl_hom f fun devices call => ?_
  cases call with
  | receive => rw [DeviceCall.perform, unnoticed.receive]; rfl
  | send byte => rw [DeviceCall.perform, unnoticed.send]; rfl

theorem DeviceMap.performCalls {δ' : Type} [DeviceBus δ'] {f : δ → δ'} (unnoticed : DeviceMap f)
    (view : Registers) (descriptor : Word) (calls : List DeviceCall) (devices : δ) :
    RegisterMachine.performCalls view descriptor calls (f devices) =
      f (RegisterMachine.performCalls view descriptor calls devices) := by
  simp only [RegisterMachine.performCalls, unnoticed.resolve]
  rcases DeviceBus.resolve devices view descriptor with ⟨error | direction, devices'⟩
  · rfl
  · exact unnoticed.foldl_perform descriptor _ devices'

theorem DeviceInvariant.foldl_perform {holds : δ → Prop} (kept : DeviceInvariant holds) {devices : δ}
    (before : holds devices) (descriptor : Word) (calls : List DeviceCall) :
    holds (calls.foldl (DeviceCall.perform descriptor) devices) := by
  induction calls generalizing devices with
  | nil => exact before
  | cons call calls inductionHypothesis =>
    cases call with
    | receive => exact inductionHypothesis (kept.receive before descriptor)
    | send byte => exact inductionHypothesis (kept.send before descriptor byte)

theorem DeviceInvariant.performCalls {holds : δ → Prop} (kept : DeviceInvariant holds) {devices : δ}
    (before : holds devices) (view : Registers) (descriptor : Word) (calls : List DeviceCall) :
    holds (RegisterMachine.performCalls view descriptor calls devices) := by
  have looked := kept.resolve before view descriptor
  rw [RegisterMachine.performCalls]
  rcases resolved : DeviceBus.resolve devices view descriptor with ⟨error | direction, devices'⟩
  · rw [resolved] at looked
    exact looked
  · rw [resolved] at looked
    exact kept.foldl_perform looked descriptor _

end Host

namespace Machine

section Use

variable [DeviceBus δ]

def use (m : Machine capacity Memory δ) : Use → Machine capacity Memory δ
  | .cycle => m.step.2
  | .calls view descriptor calls => { m with devices := performCalls view descriptor calls m.devices }

theorem use_mapDevices {δ' : Type} [DeviceBus δ'] {f : δ → δ'} (unnoticed : DeviceMap f)
    (m : Machine capacity Memory δ) (use : Use) :
    (m.mapDevices f).use use = (m.use use).mapDevices f := by
  cases use with
  | cycle => exact congrArg Prod.snd (step_mapDevices unnoticed m)
  | calls view descriptor calls =>
    have same := unnoticed.performCalls view descriptor calls m.devices
    simp only [Machine.use, mapDevices, same]

theorem use_invariant {holds : δ → Prop} (kept : DeviceInvariant holds)
    {m : Machine capacity Memory δ} (before : holds m.devices) (use : Use) :
    holds (m.use use).devices := by
  cases use with
  | cycle => exact kept.step before
  | calls view descriptor calls => exact kept.performCalls before view descriptor calls

/-- The machine with a recorder that has noted nothing yet in front of its devices. -/
def noted (m : Machine capacity Memory δ) : Machine capacity Memory (Recorded δ Passage) :=
  m.mapDevices (⟨·, []⟩)

def passages (m : Machine capacity Memory δ) (use : Use) : List Passage :=
  (m.noted.use use).devices.log

theorem use_noted (m : Machine capacity Memory δ) (use : Use) :
    (m.noted.use use).mapDevices Recorded.bus = m.use use :=
  (use_mapDevices deviceMap_bus m.noted use).symm

end Use

end Machine

/-! ## Balance -/

/-- What has gone into a console and what has come out of it, at either end. -/
structure Turnover where
  pushed : List UInt8 := []
  received : List UInt8 := []
  sent : List UInt8 := []
  taken : List UInt8 := []
deriving DecidableEq, Repr

namespace Turnover

def ofLog (log : List Passage) : Turnover where
  received := receivedBytes log
  sent := sentBytes log

def append (earlier later : Turnover) : Turnover where
  pushed := earlier.pushed ++ later.pushed
  received := earlier.received ++ later.received
  sent := earlier.sent ++ later.sent
  taken := earlier.taken ++ later.taken

end Turnover

structure Balances (before : Console) (turnover : Turnover) (after : Console) : Prop where
  input : turnover.received ++ after.input = before.input ++ turnover.pushed
  output : turnover.taken ++ after.output.toList = before.output.toList ++ turnover.sent

namespace Balances

variable {c c' c'' : Console} {earlier later : Turnover}

theorem refl (c : Console) : Balances c {} c where
  input := (List.append_nil _).symm
  output := (List.append_nil _).symm

theorem append (first : Balances c earlier c') (second : Balances c' later c'') :
    Balances c (earlier.append later) c'' where
  input := by
    calc earlier.received ++ later.received ++ c''.input
        = earlier.received ++ (c'.input ++ later.pushed) := by rw [List.append_assoc, second.input]
      _ = c.input ++ (earlier.pushed ++ later.pushed) := by
        rw [← List.append_assoc, first.input, List.append_assoc]
  output := by
    calc earlier.taken ++ later.taken ++ c''.output.toList
        = earlier.taken ++ (c'.output.toList ++ later.sent) := by
          rw [List.append_assoc, second.output]
      _ = c.output.toList ++ (earlier.sent ++ later.sent) := by
        rw [← List.append_assoc, first.output, List.append_assoc]

end Balances

theorem Turnover.ofLog_append (earlier later : List Passage) :
    ofLog (earlier ++ later) = (ofLog earlier).append (ofLog later) := by
  simp [ofLog, append, receivedBytes, sentBytes]

/-- A recorder in front of a console has noted exactly what the console lacks of its input and has more
of its output. -/
theorem deviceInvariant_balances (c : Console) :
    DeviceInvariant fun recorded : Recorded Console Passage =>
      Balances c (.ofLog recorded.log) recorded.bus where
  resolve before _ _ := before
  receive {recorded} before descriptor := by
    -- An empty queue gives no byte and leaves no note.
    obtain ⟨⟨input, output, atEnd⟩, log⟩ := recorded
    cases input with
    | nil => exact before
    | cons byte rest =>
      have next : Balances ⟨byte :: rest, output, atEnd⟩ (.ofLog [.received byte])
          ⟨rest, output, atEnd⟩ := ⟨(List.append_nil _).symm, (List.append_nil _).symm⟩
      have both := before.append next
      rwa [← Turnover.ofLog_append] at both
  send {recorded} before descriptor byte := by
    have next : Balances recorded.bus (.ofLog [.sent byte]) (recorded.bus.writeByte byte) :=
      ⟨(List.append_nil _).symm, Array.toList_push⟩
    have both := before.append next
    rwa [← Turnover.ofLog_append] at both

theorem balances_use (m : Machine capacity Memory Console) (use : Use) :
    Balances m.devices (.ofLog (m.passages use)) (m.use use).devices := by
  -- The balance is kept by the recorded console, which ends as the console without a recorder does.
  have recorded := Machine.use_invariant (deviceInvariant_balances m.devices) (m := m.noted)
    (.refl m.devices) use
  have unnoticed := congrArg Machine.devices (m.use_noted use)
  exact unnoticed ▸ recorded

/-! ## Histories -/

/-- What can happen to a console and to the machine around it. Between cycles the host may put any
processor and any memory there, with any program in it. -/
inductive Happening (capacity : Nat) where
  | push (bytes : List UInt8)
  | take
  | use (use : Use)
  | replace (processor : Processor capacity) (memory : Memory)
      (memoryInstalled devicesInstalled : Bool)

namespace Machine

def undergo (m : Machine capacity Memory Console) :
    Happening capacity → Turnover × Machine capacity Memory Console
  | .push bytes => ({ pushed := bytes }, { m with devices := m.devices.pushInput bytes })
  | .take =>
    match m.devices.takeOutput with
    | (bytes, devices) => ({ taken := bytes }, { m with devices })
  | .use use => (.ofLog (m.passages use), m.use use)
  | .replace processor memory memoryInstalled devicesInstalled =>
    ({}, { m with processor, memory, memoryInstalled, devicesInstalled })

def undergoAll (m : Machine capacity Memory Console) :
    List (Happening capacity) → Turnover × Machine capacity Memory Console
  | [] => ({}, m)
  | happening :: history =>
    match m.undergo happening with
    | (turnover, m) =>
      match m.undergoAll history with
      | (later, m) => (turnover.append later, m)

theorem balances_undergo (m : Machine capacity Memory Console) (happening : Happening capacity) :
    Balances m.devices (m.undergo happening).1 (m.undergo happening).2.devices := by
  cases happening with
  | push bytes => exact ⟨rfl, (List.append_nil _).symm⟩
  | take => exact ⟨(List.append_nil _).symm, rfl⟩
  | use use => exact balances_use m use
  | replace processor memory memoryInstalled devicesInstalled => exact .refl m.devices

theorem balances_undergoAll (m : Machine capacity Memory Console)
    (history : List (Happening capacity)) :
    Balances m.devices (m.undergoAll history).1 (m.undergoAll history).2.devices := by
  induction history generalizing m with
  | nil => exact .refl m.devices
  | cons happening history inductionHypothesis =>
    have first := balances_undergo m happening
    have rest := inductionHypothesis (m.undergo happening).2
    exact first.append rest

/-! ## Reading a byte -/

/-- A completed transfer from the input of the console stores its next byte and nothing else. -/
theorem received_of_step {m : Machine capacity Memory Console} {i : Instruction}
    (executed : m.step.1 = .executed i) (known : i.opcode? = some .syscall)
    (installed : m.devicesInstalled = true) (isInput : m.descriptor = Console.inputDescriptor) :
    ∃ byte rest, m.devices.input = byte :: rest ∧
      m.step.2.devices = { m.devices with input := rest } ∧
      m.pointer.toNat < m.memory.size ∧
      ∀ address : Nat, m.step.2.memory.cells[address]? =
        if address = m.pointer.toNat then some byte.toUInt64 else m.memory.cells[address]? := by
  rcases stepped : m.step with ⟨outcome, m'⟩
  rw [stepped] at executed
  cases cycle_of_step stepped with
  | idle | unfetched | refused | misnamed | unserved => cases executed
  | completed running fetch request serve =>
    obtain rfl := Outcome.executed.inj executed
    obtain ⟨rfl, reachable, cell⟩ := fetch_flat fetch
    rw [Instruction.request_syscall known] at request
    obtain rfl := Except.ok.inj request
    have served := served_of_serve reachable serve
    -- Of the transfers that succeed only one is from the input device.
    cases served with
    | transferred transfer =>
      cases transfer with
      | absent absent =>
        rw [absent] at installed
        cases installed
      | sent _ isOutput => exact absurd (isInput.symm.trans isOutput) (by decide)
      | @received byte rest _ _ queued inside =>
        obtain ⟨_, cells⟩ := Memory.write_inside byte.toUInt64 inside
        exact ⟨byte, rest, queued, rfl, inside, cells⟩

/-! ## Conservation -/

def cleared (m : Machine capacity Memory Console) : Machine capacity Memory Console :=
  { m with devices := m.devices.clear }

theorem console_conserves (m : Machine capacity Memory Console) (history : List (Happening capacity)) :
    ∃ turnover m', m.cleared.undergoAll history = (turnover, m') ∧
      turnover.received ++ m'.devices.input = turnover.pushed ∧
      turnover.taken ++ m'.devices.output.toList = turnover.sent ∧
      m'.devices.pending = turnover.pushed.length - turnover.received.length ∧
      ∀ i, m'.step.1 = .executed i → i.opcode? = some .syscall → m'.devicesInstalled = true →
        m'.descriptor = Console.inputDescriptor →
        ∃ byte rest, turnover.pushed = turnover.received ++ byte :: rest ∧
          m'.step.2.devices = { m'.devices with input := rest } ∧
          m'.pointer.toNat < m'.memory.size ∧
          ∀ address : Nat, m'.step.2.memory.cells[address]? =
            if address = m'.pointer.toNat then some byte.toUInt64 else m'.memory.cells[address]? := by
  have balances := balances_undergoAll m.cleared history
  rcases undergone : m.cleared.undergoAll history with ⟨turnover, m'⟩
  rw [undergone] at balances
  have input : turnover.received ++ m'.devices.input = turnover.pushed := balances.input
  have output : turnover.taken ++ m'.devices.output.toList = turnover.sent := balances.output
  refine ⟨turnover, m', rfl, input, output, ?pending, ?stored⟩
  case pending =>
    rw [← input, List.length_append, Nat.add_sub_cancel_left]
    rfl
  case stored =>
    intro i executed known installed isInput
    obtain ⟨byte, rest, queued, devices, inside, cells⟩ :=
      received_of_step executed known installed isInput
    exact ⟨byte, rest, by rw [← input, queued], devices, inside, cells⟩

/-- A machine whose first instruction is a transfer, with this descriptor and this pointer. -/
def transferring (descriptor pointer : Word) (cells : Array Word) (fits : cells.size < UInt64.size) :
    Happening 4 :=
  .replace
    { registers :=
        ((Registers.cleared.setRunning true).set descriptorRegister descriptor).set pointerRegister
          pointer }
    ⟨cells, fits⟩ true true

/-- The host reads a byte, a transfer loses one for want of a cell, one string is sent whole and one up to
the end of memory, and then a transfer is about to read. -/
def mixedHistory : List (Happening 4) :=
  [.push [65, 66], .push [67], .use (.calls .cleared 0 [.receive, .send 9]),
    transferring 0 7 #[encode .syscall 0 0 0] (by decide), .use .cycle,
    transferring 1 1 #[encode .syscall 0 0 0, 0x141, 0] (by decide), .use .cycle, .take,
    transferring 1 1 #[encode .syscall 0 0 0, 0x143] (by decide), .use .cycle,
    transferring 0 1 #[encode .syscall 0 0 0, 5] (by decide)]

def usedMachine : Machine 4 Memory Console where
  processor := {}
  memory := ⟨#[], by decide⟩
  devices := { input := [1], output := #[2] }

theorem mixedHistory_conserves :
    ∃ turnover m', usedMachine.cleared.undergoAll mixedHistory = (turnover, m') ∧
      turnover = ⟨[65, 66, 67], [65, 66], [0x41, 0x43], [0x41]⟩ ∧ m'.devices.output.toList = [0x43] ∧
      m'.devices.pending = 1 ∧ m'.step.1 = .executed (.of .syscall 0 0 0) ∧
      m'.step.2.memory.cells[1]? = some 67 := by
  obtain ⟨turnover, m', undergone, input, output, pending, stored⟩ :=
    console_conserves usedMachine mixedHistory
  have turnedOver : (usedMachine.cleared.undergoAll mixedHistory).1 =
      ⟨[65, 66, 67], [65, 66], [0x41, 0x43], [0x41]⟩ := by decide +kernel
  have executed : (usedMachine.cleared.undergoAll mixedHistory).2.step.1 =
      .executed (.of .syscall 0 0 0) := by decide +kernel
  have asking : (usedMachine.cleared.undergoAll mixedHistory).2.devicesInstalled = true ∧
      (usedMachine.cleared.undergoAll mixedHistory).2.descriptor = Console.inputDescriptor ∧
      (usedMachine.cleared.undergoAll mixedHistory).2.pointer = 1 := by decide +kernel
  rw [undergone] at turnedOver executed asking
  obtain ⟨installed, isInput, atOne⟩ := asking
  have known : (Instruction.of .syscall 0 0 0).opcode? = some .syscall := by decide
  obtain ⟨byte, rest, pushed, _, _, cells⟩ := stored _ executed known installed isInput
  subst turnedOver
  obtain ⟨rfl, rfl⟩ : 67 = byte ∧ [] = rest := by simpa using pushed
  refine ⟨_, m', undergone, rfl, List.append_cancel_left output, pending, executed, ?_⟩
  rw [cells 1, atOne, if_pos (by decide)]
  decide

end Machine

end RegisterMachine

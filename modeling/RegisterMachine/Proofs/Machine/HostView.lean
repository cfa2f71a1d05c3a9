import RegisterMachine.Device.Table
import RegisterMachine.Memory.Monitored
import RegisterMachine.Proofs.Instruction.Operands
import RegisterMachine.Proofs.Machine.Access
import RegisterMachine.Proofs.Machine.Walk

/-! # What the host sees of a cycle

`Requested` lists what one cycle asks of memory, in order, and which descriptors it looks up. To say
that a cycle asks for nothing else, both buses are put behind recorders (`Recorded`), which answer as
the bus behind them and note each request together with the registers that came with it.
`step_of_requested` says that the recorded machine does what the machine does, and that its notes are
those of `Requested`, all with the registers from before the cycle.
-/

namespace RegisterMachine

variable {capacity : Nat} {μ δ : Type}

/-! ## Recorders -/

/-- A bus and the requests that have reached it, the oldest first. -/
structure Recorded (σ ε : Type) where
  bus : σ
  log : List ε

structure Lookup where
  descriptor : Word
  view : Registers
deriving DecidableEq, Repr

instance [MemoryBus μ] : MemoryBus (Recorded μ Access) where
  read recorded view address :=
    (MemoryBus.read recorded.bus view address).map id
      (⟨·, recorded.log ++ [⟨.read, address, view⟩]⟩)
  write recorded view address value :=
    (MemoryBus.write recorded.bus view address value).map id
      (⟨·, recorded.log ++ [⟨.write value, address, view⟩]⟩)

-- Bytes come and go without the registers, so there is nothing to be noted of them.
instance [DeviceBus δ] : DeviceBus (Recorded δ Lookup) where
  resolve recorded view descriptor :=
    (DeviceBus.resolve recorded.bus view descriptor).map id
      (⟨·, recorded.log ++ [⟨descriptor, view⟩]⟩)
  receive recorded descriptor :=
    (DeviceBus.receive recorded.bus descriptor).map id (⟨·, recorded.log⟩)
  send recorded descriptor byte :=
    (DeviceBus.send recorded.bus descriptor byte).map id (⟨·, recorded.log⟩)

section Buses

variable [MemoryBus μ] [DeviceBus δ]

theorem read_recorded (memory : μ) (log : List Access) (view : Registers) (address : Word) :
    MemoryBus.read (⟨memory, log⟩ : Recorded μ Access) view address =
      (MemoryBus.read memory view address).map id (⟨·, log ++ [⟨.read, address, view⟩]⟩) := rfl

theorem send_recorded (devices : δ) (log : List Lookup) (descriptor : Word) (byte : UInt8) :
    DeviceBus.send (⟨devices, log⟩ : Recorded δ Lookup) descriptor byte =
      (DeviceBus.send devices descriptor byte).map id (⟨·, log⟩) := rfl

theorem receive_recorded {devices devices' : δ} {descriptor : Word}
    {answer : Except DeviceError UInt8}
    (received : DeviceBus.receive devices descriptor = (answer, devices')) (lookups : List Lookup) :
    DeviceBus.receive (⟨devices, lookups⟩ : Recorded δ Lookup) descriptor =
      (answer, ⟨devices', lookups⟩) := by
  show (DeviceBus.receive devices descriptor).map id _ = _
  rw [received]
  rfl

instance [StringsEnd μ δ] : StringsEnd (Recorded μ Access) (Recorded δ Lookup) where
  remaining view descriptor address memory devices :=
    StringsEnd.remaining view descriptor address memory.bus devices.bus
  remaining_lt {view descriptor address word memory memory' devices devices'} read nonzero sent := by
    have read' : MemoryBus.read memory.bus view address = (.ok word, memory'.bus) := by
      rw [read_recorded] at read
      rcases answered : MemoryBus.read memory.bus view address with ⟨answer, bus⟩
      rw [answered] at read
      cases read
      rfl
    have sent' : DeviceBus.send devices.bus descriptor word.toUInt8 = (.ok (), devices'.bus) := by
      rw [send_recorded] at sent
      rcases answered : DeviceBus.send devices.bus descriptor word.toUInt8 with ⟨answer, bus⟩
      rw [answered] at sent
      cases sent
      rfl
    exact StringsEnd.remaining_lt read' nonzero sent'

end Buses

/-! ## Requests -/

/-- Requests as they are noted when these registers come with all of them. -/
def accessesWith (view : Registers) (requests : List (AccessKind × Word)) : List Access :=
  requests.map fun request => ⟨request.1, request.2, view⟩

def lookupsWith (view : Registers) (descriptors : List Word) : List Lookup :=
  descriptors.map (⟨·, view⟩)

/-- Reads of so many cells from an address on. The addresses wrap around. -/
def consecutiveReads (address : Word) (count : Nat) : List (AccessKind × Word) :=
  (List.range count).map fun k => (.read, address + UInt64.ofNat k)

theorem consecutiveReads_succ (address : Word) (count : Nat) :
    consecutiveReads address (count + 1) =
      (.read, address) :: consecutiveReads (address + 1) count := by
  have next : ∀ k : Nat, address + (UInt64.ofNat k + 1) = address + 1 + UInt64.ofNat k := by
    intro k
    rw [UInt64.add_comm (UInt64.ofNat k), ← UInt64.add_assoc]
  simp [consecutiveReads, List.range_succ_eq_map, Function.comp_def, next]

/-- A walk reads one cell more than it sends bytes. -/
theorem sendString_recorded [MemoryBus μ] [DeviceBus δ] [StringsEnd μ δ] {view : Registers}
    {descriptor address : Word} {memory memory' : μ} {devices devices' : δ} {bytes : List UInt8}
    {result : Except Fault Unit}
    (walk : Walk view descriptor address memory devices bytes result memory' devices')
    (accesses : List Access) (lookups : List Lookup) :
    sendString view descriptor address (⟨memory, accesses⟩ : Recorded μ Access)
        (⟨devices, lookups⟩ : Recorded δ Lookup) =
      (result,
        ⟨memory', accesses ++ accessesWith view (consecutiveReads address (bytes.length + 1))⟩,
        ⟨devices', lookups⟩) := by
  induction walk generalizing accesses with
  | unread read =>
    rw [sendString_eq, read_recorded, read]
    simp [consecutiveReads, accessesWith]
  | terminated read zero =>
    rw [sendString_eq, read_recorded, read]
    simp [zero, consecutiveReads, accessesWith]
  | refused read nonzero refused =>
    rw [sendString_eq, read_recorded, read]
    simp [nonzero, send_recorded, refused, consecutiveReads, accessesWith]
  | sent read nonzero sent rest inductionHypothesis =>
    rw [sendString_eq, read_recorded, read]
    simp only [Prod.map, id, nonzero, if_false, send_recorded, sent, inductionHypothesis,
      List.length_cons]
    rw [consecutiveReads_succ _ (List.length _ + 1)]
    simp [accessesWith]

/-- The instruction asks for nothing: it is no transfer, and if it loads or stores then its register
operand names no register. -/
def Instruction.Silent (i : Instruction) : Prop :=
  ∀ op, i.opcode? = some op → i.badOperand? op = none → op ≠ .load ∧ op ≠ .store ∧ op ≠ .syscall

theorem Instruction.demand_of_local {op : Opcode} (notLoad : op ≠ .load) (notStore : op ≠ .store)
    (notTransfer : op ≠ .syscall) (i : Instruction) (r : Registers) :
    ∃ effect, i.demand op r = .finish effect := by
  cases op with
  | load => exact absurd rfl notLoad
  | store => exact absurd rfl notStore
  | syscall => exact absurd rfl notTransfer
  | _ => exact ⟨_, rfl⟩

namespace Machine

section Requests

variable [MemoryBus μ] [DeviceBus δ]

/-- What a transfer asks of memory, and which descriptors it looks up. -/
inductive TransferRequests (m : Machine capacity μ δ) :
    List (AccessKind × Word) → List Word → Prop where
  | detached (absent : m.devicesInstalled = false) : TransferRequests m [] []
  | unresolved {devices : δ} {error : DeviceError} (installed : m.devicesInstalled = true)
      (resolved : DeviceBus.resolve m.devices m.processor.registers m.descriptor =
        (.error error, devices)) :
      TransferRequests m [] [m.descriptor]
  -- The device has no byte, so there is nothing to be stored.
  | exhausted {devices devices' : δ} {error : DeviceError} (installed : m.devicesInstalled = true)
      (resolved : DeviceBus.resolve m.devices m.processor.registers m.descriptor =
        (.ok .input, devices))
      (received : DeviceBus.receive devices m.descriptor = (.error error, devices')) :
      TransferRequests m [] [m.descriptor]
  | received {devices devices' : δ} {byte : UInt8} (installed : m.devicesInstalled = true)
      (resolved : DeviceBus.resolve m.devices m.processor.registers m.descriptor =
        (.ok .input, devices))
      (received : DeviceBus.receive devices m.descriptor = (.ok byte, devices')) :
      TransferRequests m [(.write byte.toUInt64, m.pointer)] [m.descriptor]
  -- One cell for each byte that is sent, and the cell at which the walk ends.
  | sent {memory : μ} {devices devices' : δ} {bytes : List UInt8} {result : Except Fault Unit}
      (installed : m.devicesInstalled = true)
      (resolved : DeviceBus.resolve m.devices m.processor.registers m.descriptor =
        (.ok .output, devices))
      (walk : Walk m.processor.registers m.descriptor m.pointer m.memory devices bytes result memory
        devices') :
      TransferRequests m (consecutiveReads m.pointer (bytes.length + 1)) [m.descriptor]

/-- What a cycle of a running machine asks of memory, and which descriptors it looks up. -/
inductive Requested (m : Machine capacity μ δ) : List (AccessKind × Word) → List Word → Prop where
  | unfetched {fetched : Machine capacity μ δ} {error : MemoryError}
      (fetch : m.load m.processor.pc = (.error error, fetched)) :
      Requested m [(.read, m.processor.pc)] []
  | silent {fetched : Machine capacity μ δ} {word : Word}
      (fetch : m.load m.processor.pc = (.ok word, fetched))
      (silent : (Instruction.ofWord word).Silent) :
      Requested m [(.read, m.processor.pc)] []
  | loaded {fetched : Machine capacity μ δ} {word : Word}
      (fetch : m.load m.processor.pc = (.ok word, fetched))
      (known : (Instruction.ofWord word).opcode? = some .load)
      (named : (Instruction.ofWord word).badOperand? .load = none) :
      Requested m
        [(.read, m.processor.pc), (.read, (Instruction.ofWord word).b.toUInt64)] []
  | stored {fetched : Machine capacity μ δ} {word : Word}
      (fetch : m.load m.processor.pc = (.ok word, fetched))
      (known : (Instruction.ofWord word).opcode? = some .store)
      (named : (Instruction.ofWord word).badOperand? .store = none) :
      Requested m
        [(.read, m.processor.pc),
          (.write (m.processor.registers.get (.ofSlot (Instruction.ofWord word).a)),
            (Instruction.ofWord word).b.toUInt64)] []
  | transferred {fetched : Machine capacity μ δ} {word : Word} {requests : List (AccessKind × Word)}
      {descriptors : List Word} (fetch : m.load m.processor.pc = (.ok word, fetched))
      (known : (Instruction.ofWord word).opcode? = some .syscall)
      (transfer : fetched.TransferRequests requests descriptors) :
      Requested m ((.read, m.processor.pc) :: requests) descriptors

theorem TransferRequests.descriptors {m : Machine capacity μ δ}
    {requests : List (AccessKind × Word)} {descriptors : List Word}
    (requested : m.TransferRequests requests descriptors) :
    descriptors = [] ∨ descriptors = [m.descriptor] := by
  cases requested with
  | detached absent => exact .inl rfl
  | unresolved | exhausted | received | sent => exact .inr rfl

theorem Requested.descriptors {m : Machine capacity μ δ} {requests : List (AccessKind × Word)}
    {descriptors : List Word} (requested : m.Requested requests descriptors) :
    descriptors = [] ∨ descriptors = [m.descriptor] := by
  cases requested with
  | unfetched | silent | loaded | stored => exact .inl rfl
  | transferred fetch known transfer =>
    have seen := (surrounds_of_load fetch).processor
    have looked := transfer.descriptors
    rwa [descriptor, seen] at looked

variable [StringsEnd μ δ]

theorem transferRequests (m : Machine capacity μ δ) :
    ∃ requests descriptors, m.TransferRequests requests descriptors := by
  cases installed : m.devicesInstalled with
  | false => exact ⟨_, _, .detached installed⟩
  | true =>
    rcases resolved : DeviceBus.resolve m.devices m.processor.registers m.descriptor with
      ⟨_ | direction, devices⟩
    · exact ⟨_, _, .unresolved installed resolved⟩
    cases direction with
    | input =>
      rcases received : DeviceBus.receive devices m.descriptor with ⟨_ | byte, devices'⟩
      · exact ⟨_, _, .exhausted installed resolved received⟩
      · exact ⟨_, _, .received installed resolved received⟩
    | output =>
      obtain ⟨bytes, walk⟩ :=
        walk_sendString m.processor.registers m.descriptor m.pointer m.memory devices
      exact ⟨_, _, .sent installed resolved walk⟩

theorem requested (m : Machine capacity μ δ) :
    ∃ requests descriptors, m.Requested requests descriptors := by
  -- An instruction that is not silent is one of three, with a register where it needs one.
  rcases fetch : m.load m.processor.pc with ⟨_ | word, fetched⟩
  · exact ⟨_, _, .unfetched fetch⟩
  by_cases silent : (Instruction.ofWord word).Silent
  · exact ⟨_, _, .silent fetch silent⟩
  simp only [Instruction.Silent, Classical.not_forall] at silent
  obtain ⟨op, known, named, asks⟩ := silent
  by_cases isLoad : op = .load
  · subst isLoad
    exact ⟨_, _, .loaded fetch known named⟩
  by_cases isStore : op = .store
  · subst isStore
    exact ⟨_, _, .stored fetch known named⟩
  by_cases isTransfer : op = .syscall
  · subst isTransfer
    obtain ⟨requests, descriptors, transfer⟩ := transferRequests fetched
    exact ⟨_, _, .transferred fetch known transfer⟩
  · exact absurd ⟨isLoad, isStore, isTransfer⟩ asks

end Requests

/-! ## The recorded machine -/

def record (accesses : List Access) (lookups : List Lookup) (m : Machine capacity μ δ) :
    Machine capacity (Recorded μ Access) (Recorded δ Lookup) :=
  { m with memory := ⟨m.memory, accesses⟩, devices := ⟨m.devices, lookups⟩ }

theorem resolve_record [DeviceBus δ] {m : Machine capacity μ δ} {view : Registers} {descriptor : Word}
    {devices : δ} {answer : Except DeviceError Direction}
    (resolved : DeviceBus.resolve m.devices view descriptor = (answer, devices))
    (accesses : List Access) (lookups : List Lookup) :
    DeviceBus.resolve (m.record accesses lookups).devices view descriptor =
      (answer, ⟨devices, lookups ++ lookupsWith view [descriptor]⟩) := by
  show (DeviceBus.resolve m.devices view descriptor).map id _ = _
  rw [resolved]
  rfl

theorem load_record [MemoryBus μ] {m : Machine capacity μ δ} (installed : m.memoryInstalled = true)
    (accesses : List Access) (lookups : List Lookup) (address : Word) :
    (m.record accesses lookups).load address =
      (m.load address).map id
        (record (accesses ++ accessesWith m.processor.registers [(.read, address)]) lookups) := by
  obtain ⟨processor, memory, devices, memoryInstalled, devicesInstalled⟩ := m
  cases installed
  rfl

theorem store_record [MemoryBus μ] {m : Machine capacity μ δ} (installed : m.memoryInstalled = true)
    (accesses : List Access) (lookups : List Lookup) (address value : Word) :
    (m.record accesses lookups).store address value =
      (m.store address value).map id
        (record (accesses ++ accessesWith m.processor.registers [(.write value, address)])
          lookups) := by
  obtain ⟨processor, memory, devices, memoryInstalled, devicesInstalled⟩ := m
  cases installed
  rfl

variable [MemoryBus μ] [DeviceBus δ] [StringsEnd μ δ]

theorem transfer_record {m : Machine capacity μ δ} {requests : List (AccessKind × Word)}
    {descriptors : List Word} (reachable : m.memoryInstalled = true)
    (requested : m.TransferRequests requests descriptors) (accesses : List Access)
    (lookups : List Lookup) :
    (m.record accesses lookups).transfer m.descriptor m.pointer =
      (m.transfer m.descriptor m.pointer).map id
        (record (accesses ++ accessesWith m.processor.registers requests)
          (lookups ++ lookupsWith m.processor.registers descriptors)) := by
  have view : (m.record accesses lookups).processor.registers = m.processor.registers := rfl
  -- A descriptor is looked up before memory is asked for anything.
  cases requested with
  | detached absent =>
    obtain ⟨processor, memory, devices, memoryInstalled, devicesInstalled⟩ := m
    cases absent
    simp [record, transfer, accessesWith, lookupsWith]
  | unresolved installed resolved =>
    rw [transfer_eq installed, transfer_eq (m := m.record accesses lookups) installed, view,
      resolve_record resolved, resolved]
    simp [record, accessesWith]
  | exhausted installed resolved received =>
    rw [transfer_eq installed, transfer_eq (m := m.record accesses lookups) installed, view,
      resolve_record resolved, resolved]
    simp only [receiveInto_eq, receive_recorded received, received]
    simp [record, accessesWith]
  | received installed resolved received =>
    rename_i devices devices' byte
    have stored := store_record (m := { m with devices := devices' }) reachable accesses
      (lookups ++ lookupsWith m.processor.registers [m.descriptor]) m.pointer byte.toUInt64
    rw [transfer_eq installed, transfer_eq (m := m.record accesses lookups) installed, view,
      resolve_record resolved, resolved]
    simp only [receiveInto_eq, receive_recorded received, received]
    unfold record at stored ⊢
    rw [stored]
    rfl
  | sent installed resolved walk =>
    rename_i memory devices devices' bytes result
    have noted := sendString_recorded walk accesses
      (lookups ++ lookupsWith m.processor.registers [m.descriptor])
    rw [transfer_eq installed, transfer_eq (m := m.record accesses lookups) installed, view,
      resolve_record resolved, resolved]
    have plain := sendFrom_eq (m := { m with devices }) reachable m.descriptor m.pointer
    have recorded := sendFrom_eq (m := record accesses
      (lookups ++ lookupsWith m.processor.registers [m.descriptor]) { m with devices }) reachable
      m.descriptor m.pointer
    simp only [sendString_of_walk walk] at plain
    simp only [record, noted] at recorded
    simp only [record]
    rw [plain, recorded]
    rfl

/-! ## The recorded cycle -/

theorem serve_load_record {m : Machine capacity μ δ} (installed : m.memoryInstalled = true)
    (accesses : List Access) (lookups : List Lookup) (target : RegisterIndex) (address : Word) :
    (m.record accesses lookups).serve (.load target address) =
      (m.serve (.load target address)).map id
        (record (accesses ++ accessesWith m.processor.registers [(.read, address)]) lookups) := by
  simp only [serve, load_record installed]
  cases m.load address with
  | mk answer after => cases answer <;> rfl

theorem serve_store_record {m : Machine capacity μ δ} (installed : m.memoryInstalled = true)
    (accesses : List Access) (lookups : List Lookup) (address value : Word) :
    (m.record accesses lookups).serve (.store address value) =
      (m.serve (.store address value)).map id
        (record (accesses ++ accessesWith m.processor.registers [(.write value, address)])
          lookups) := by
  simp only [serve, store_record installed]
  cases m.store address value with
  | mk answer after => cases answer <;> rfl

theorem serve_transfer_record {m : Machine capacity μ δ} {requests : List (AccessKind × Word)}
    {descriptors : List Word} (installed : m.memoryInstalled = true)
    (requested : m.TransferRequests requests descriptors) (accesses : List Access)
    (lookups : List Lookup) :
    (m.record accesses lookups).serve (.transfer m.descriptor m.pointer) =
      (m.serve (.transfer m.descriptor m.pointer)).map id
        (record (accesses ++ accessesWith m.processor.registers requests)
          (lookups ++ lookupsWith m.processor.registers descriptors)) := by
  simp only [serve, transfer_record installed requested]
  cases m.transfer m.descriptor m.pointer with
  | mk answer after => cases answer <;> rfl

theorem execute_record {m : Machine capacity μ δ} {word : Word} {demand : Request}
    {accesses accesses' : List Access} {lookups lookups' : List Lookup}
    (request : (Instruction.ofWord word).request m.processor.registers m.processor.pc = .ok demand)
    (served : (m.record accesses lookups).serve demand =
      (m.serve demand).map id (record accesses' lookups')) :
    (m.record accesses lookups).execute word =
      (m.execute word).map id (record accesses' lookups') := by
  have request' : (Instruction.ofWord word).request (m.record accesses lookups).processor.registers
      (m.record accesses lookups).processor.pc = .ok demand := request
  simp only [execute, request, request', served]
  cases m.serve demand with
  | mk answer after => cases answer <;> rfl

theorem execute_record_of_trap {m : Machine capacity μ δ} {word : Word} {trap : Trap}
    (request : (Instruction.ofWord word).request m.processor.registers m.processor.pc = .error trap)
    (accesses : List Access) (lookups : List Lookup) :
    (m.record accesses lookups).execute word =
      (m.execute word).map id (record accesses lookups) := by
  have request' : (Instruction.ofWord word).request (m.record accesses lookups).processor.registers
      (m.record accesses lookups).processor.pc = .error trap := request
  simp only [execute, request, request']
  cases trap <;> rfl

theorem step_of_fetch {m fetched : Machine capacity μ δ} {word : Word} (running : m.running = true)
    (fetch : m.load m.processor.pc = (.ok word, fetched)) : m.step = fetched.execute word := by
  simp only [step, running, if_true, fetch]

theorem step_record_of_execute {m fetched : Machine capacity μ δ} {word : Word}
    {requests : List (AccessKind × Word)} {descriptors : List Word} {accesses : List Access}
    {lookups : List Lookup} (running : m.running = true) (installed : m.memoryInstalled = true)
    (fetch : m.load m.processor.pc = (.ok word, fetched))
    (executed : ∀ earlier, (fetched.record earlier lookups).execute word =
      (fetched.execute word).map id
        (record (earlier ++ accessesWith fetched.processor.registers requests)
          (lookups ++ lookupsWith fetched.processor.registers descriptors))) :
    (m.record accesses lookups).step =
      m.step.map id
        (record (accesses ++ accessesWith m.processor.registers ((.read, m.processor.pc) :: requests))
          (lookups ++ lookupsWith m.processor.registers descriptors)) := by
  have running' : (m.record accesses lookups).running = true := running
  have loading := load_record installed accesses lookups m.processor.pc
  have seen := (surrounds_of_load fetch).processor
  rw [fetch] at loading
  rw [step_of_fetch running fetch, step_of_fetch running' loading, executed, seen]
  simp [accessesWith]

/-- The recorded machine does what the machine does, and notes what the cycle asks for. -/
theorem step_of_requested {m : Machine capacity μ δ} {requests : List (AccessKind × Word)}
    {descriptors : List Word} (running : m.running = true) (installed : m.memoryInstalled = true)
    (requested : m.Requested requests descriptors) (accesses : List Access)
    (lookups : List Lookup) :
    (m.record accesses lookups).step =
      m.step.map id
        (record (accesses ++ accessesWith m.processor.registers requests)
          (lookups ++ lookupsWith m.processor.registers descriptors)) := by
  cases requested with
  | unfetched fetch =>
    have running' : (m.record accesses lookups).running = true := running
    have loading := load_record installed accesses lookups m.processor.pc
    have view : (m.record accesses lookups).processor = m.processor := rfl
    simp only [step, running, running', if_true, view, loading, fetch, Prod.map, id]
    simp [stop, record, modifyProcessor, lookupsWith]
  | silent fetch silent =>
    rename_i fetched word
    refine step_record_of_execute running installed fetch fun earlier => ?_
    cases request : (Instruction.ofWord word).request fetched.processor.registers
        fetched.processor.pc with
    | error trap =>
      rw [execute_record_of_trap request]
      simp [accessesWith, lookupsWith]
    | ok demand =>
      obtain ⟨op, known, named, _, asked⟩ := Instruction.request_eq_ok request
      obtain ⟨notLoad, notStore, notTransfer⟩ := silent op known named
      obtain ⟨effect, finish⟩ := Instruction.demand_of_local notLoad notStore notTransfer
        (.ofWord word) fetched.processor.registers
      rw [finish] at asked
      subst asked
      rw [execute_record request rfl]
      simp [accessesWith, lookupsWith]
  | loaded fetch known named =>
    rename_i fetched word
    have reachable := (surrounds_of_load fetch).memoryInstalled.trans installed
    refine step_record_of_execute running installed fetch fun earlier => ?_
    have request := Instruction.request_of_sound fetched.processor.pc known named
      (r := fetched.processor.registers) (by simp [Instruction.DividesByZero])
    rw [execute_record request (serve_load_record reachable ..)]
    simp [lookupsWith]
  | stored fetch known named =>
    rename_i fetched word
    have reachable := (surrounds_of_load fetch).memoryInstalled.trans installed
    have seen := (surrounds_of_load fetch).processor
    refine step_record_of_execute running installed fetch fun earlier => ?_
    have request := Instruction.request_of_sound fetched.processor.pc known named
      (r := fetched.processor.registers) (by simp [Instruction.DividesByZero])
    rw [execute_record request (serve_store_record reachable ..), ← seen]
    simp [lookupsWith]
  | transferred fetch known transfer =>
    have reachable := (surrounds_of_load fetch).memoryInstalled.trans installed
    refine step_record_of_execute running installed fetch fun earlier => ?_
    exact execute_record (Instruction.request_syscall known _ _)
      (serve_transfer_record reachable transfer ..)

/-- One cycle asks memory and devices for what `Requested` lists and for nothing else, in that order. It
looks up at most one descriptor. Every request comes with the registers from before the cycle, and no
request is kept from doing what it does. `StringsEnd` stands for the cycle ending, with the recorders or
without them. -/
theorem step_asks {m : Machine capacity μ δ} (running : m.running = true)
    (installed : m.memoryInstalled = true) :
    (∃ requests descriptors, m.Requested requests descriptors) ∧
    ∀ requests descriptors, m.Requested requests descriptors →
      (descriptors = [] ∨ descriptors = [m.descriptor]) ∧
      ∀ accesses lookups,
        (m.record accesses lookups).step =
          m.step.map id
            (record (accesses ++ accessesWith m.processor.registers requests)
              (lookups ++ lookupsWith m.processor.registers descriptors)) :=
  ⟨requested m, fun _ _ requested =>
    ⟨requested.descriptors, step_of_requested running installed requested⟩⟩

/-- A string of two bytes in memory that cannot be written to, for a printer with room for one. -/
def narrowPrinter : Machine 4 MonitoredMemory DeviceTable where
  processor :=
    { registers :=
        ((Registers.cleared.setRunning true).set descriptorRegister 7).set pointerRegister 1 }
  memory :=
    { memory := ⟨#[encode .syscall 0 0 0, 0x141, 0x42, 0], by decide⟩
      writable := false
      failingReads := [3] }
  devices := ⟨[(7, .sink (some 1) "full")], List.pairwise_singleton _ _, #[]⟩

theorem narrowPrinter_asks :
    narrowPrinter.running = true ∧ narrowPrinter.memoryInstalled = true ∧
      narrowPrinter.Requested [(.read, 0), (.read, 1), (.read, 2)] [7] ∧
      (narrowPrinter.record [] []).step =
        narrowPrinter.step.map id
          (record
            (accessesWith narrowPrinter.processor.registers [(.read, 0), (.read, 1), (.read, 2)])
            (lookupsWith narrowPrinter.processor.registers [7])) := by
  have requested : narrowPrinter.Requested [(.read, 0), (.read, 1), (.read, 2)] [7] :=
    .transferred rfl (by decide)
      (.sent rfl rfl (.sent rfl (by decide) rfl (.refused rfl (by decide) rfl)))
  have asks := step_asks (m := narrowPrinter) rfl rfl
  exact ⟨rfl, rfl, requested, (asks.2 _ _ requested).2 [] []⟩

end Machine

end RegisterMachine

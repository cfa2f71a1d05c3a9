import RegisterMachine.Proofs.Device.Table
import RegisterMachine.Proofs.Instruction.Operands
import RegisterMachine.Proofs.Machine.Cycle
import RegisterMachine.Proofs.Machine.Service
import RegisterMachine.Proofs.Machine.Walk
import RegisterMachine.Proofs.Memory.Loading

/-! # Sending a string

The cycle of an instruction that sends a string from flat memory to an output device. The string is
`Memory.stringFrom` the pointer: the low bytes of the cells up to the first that is zero, or up to the
end of memory. The device takes all of it or a first part (`Device.taken`), the walk along the string
ends behind what was taken, and `Memory.sendingResult` says how the cycle ends.
-/

namespace RegisterMachine

/-- How sending the string at a pointer ends, for a device with so much room: a device that is full
before the end of the string fails; a string without an end leaves memory. -/
def Memory.sendingResult (m : Memory) (pointer : Word) (left : Option Nat) (reason : String) :
    Except Fault Unit :=
  let string := m.stringFrom pointer.toNat
  if (Device.taken left string).length < string.length then .error (.device (.writeFailed reason))
  else if m.Terminated pointer.toNat then .ok ()
  else .error (.memory (.outOfBounds (UInt64.ofNat (max pointer.toNat m.size))))

/-! ## Walks and tables -/

section Tables

variable {μ α : Type} [MemoryBus μ] [Peripheral α]

theorem Walk.written {view : Registers} {descriptor address : Word} {memory memory' : μ}
    {t t' : DeviceTable α} {bytes : List UInt8} {result : Except Fault Unit}
    (walk : Walk view descriptor address memory t bytes result memory' t') :
    t'.written.toList = t.written.toList ++ bytes.map (descriptor, ·) := by
  induction walk with
  | unread read => simp
  | terminated read zero => simp
  | refused read nonzero refused => simpa using DeviceTable.written_send refused
  | sent read nonzero sent rest inductionHypothesis =>
    rw [inductionHypothesis, DeviceTable.written_send sent]
    simp

end Tables

theorem walk_flat {t : DeviceTable} {descriptor : Word} {left : Option Nat} {reason : String}
    (bound : t.find? descriptor = some (.sink left reason)) (view : Registers) (memory : Memory)
    (pointer : Word) :
    ∃ t', sendString view descriptor pointer memory t =
        (memory.sendingResult pointer left reason, memory, t') ∧
      Delivered t descriptor left reason (Device.taken left (memory.stringFrom pointer.toNat)) t' ∧
      Walk view descriptor pointer memory t (Device.taken left (memory.stringFrom pointer.toNat))
        (memory.sendingResult pointer left reason) memory t' := by
  obtain ⟨t', answer, delivered⟩ :=
    DeviceTable.delivered_sendAll bound (memory.stringFrom pointer.toNat)
  have ended : sendString view descriptor pointer memory t =
      (memory.sendingResult pointer left reason, memory, t') := by
    rw [sendString_flat, answer, Memory.sendingResult]
    split
    · rfl
    · rfl
  obtain ⟨bytes, walk⟩ := walk_of_sendString ended
  -- What was walked over and what was delivered stand in the same log.
  have logged : bytes.map (descriptor, ·) =
      (Device.taken left (memory.stringFrom pointer.toNat)).map (descriptor, ·) :=
    List.append_cancel_left (walk.written.symm.trans delivered.written)
  have same : bytes = Device.taken left (memory.stringFrom pointer.toNat) :=
    (List.map_inj_right fun _ _ equal => (Prod.mk.inj equal).2).1 logged
  rw [same] at walk
  exact ⟨t', ended, delivered, walk⟩

/-! ## The cycle -/

namespace Machine

variable {capacity : Nat} {δ : Type}

/-- The next instruction of a running machine is a transfer, and nothing is missing for it. -/
structure AboutToTransfer (m : Machine capacity Memory δ) (i : Instruction) : Prop where
  running : m.running = true
  memoryInstalled : m.memoryInstalled = true
  devicesInstalled : m.devicesInstalled = true
  fetched : ∃ word, m.memory.cells[m.processor.pc.toNat]? = some word ∧ i = .ofWord word
  known : i.opcode? = some .syscall

/-- The end of a cycle whose transfer came to a result and left memory and devices. -/
def conclude (m : Machine capacity Memory δ) (i : Instruction) (memory : Memory) (devices : δ) :
    Except Fault Unit → Outcome × Machine capacity Memory δ
  | .ok () => (.executed i, { m with processor := m.processor.complete .advance, memory, devices })
  | .error fault => (.faulted fault, { m with processor := m.processor.stop fault, memory, devices })

variable [DeviceBus δ]

theorem step_of_output {m : Machine capacity Memory δ} {i : Instruction} {memory : Memory}
    {devices devices' : δ} {result : Except Fault Unit} (ready : m.AboutToTransfer i)
    (resolved : DeviceBus.resolve m.devices m.processor.registers m.descriptor =
      (.ok .output, devices))
    (walked : sendString m.processor.registers m.descriptor m.pointer m.memory devices =
      (result, memory, devices')) :
    m.step = m.conclude i memory devices' result := by
  obtain ⟨running, reachable, installed, ⟨word, cell, rfl⟩, known⟩ := ready
  rw [step_flat running reachable cell]
  simp only [execute, Instruction.request_syscall known, serve]
  have transferred : m.transfer m.descriptor m.pointer =
      (result, { m with memory, devices := devices' }) := by
    have sent := sendFrom_eq (m := { m with devices }) reachable m.descriptor m.pointer
    simp only [walked] at sent
    rw [transfer_eq installed, resolved]
    exact sent
  unfold descriptor pointer at transferred
  rw [transferred]
  cases result with
  | ok _ => rfl
  | error fault => rfl

/-- A transfer to an output device gives it the string at the pointer, as much as it takes, and always
comes to an end. A string that was loaded reaches a console up to its first zero byte. -/
theorem step_sends_string :
    (∀ {m : Machine capacity Memory DeviceTable} {i : Instruction} {left : Option Nat}
        {reason : String}, m.AboutToTransfer i →
      m.devices.find? m.descriptor = some (.sink left reason) →
      ∃ devices,
        Walk m.processor.registers m.descriptor m.pointer m.memory m.devices
          (Device.taken left (m.memory.stringFrom m.pointer.toNat))
          (m.memory.sendingResult m.pointer left reason) m.memory devices ∧
        Delivered m.devices m.descriptor left reason
          (Device.taken left (m.memory.stringFrom m.pointer.toNat)) devices ∧
        m.step = m.conclude i m.memory devices (m.memory.sendingResult m.pointer left reason)) ∧
    (∀ {m : Machine capacity Memory Console} {i : Instruction} {memory : Memory}
        {bytes : List UInt8}, m.AboutToTransfer i → m.descriptor = Console.outputDescriptor →
      memory.loadString m.pointer bytes = (.ok (), m.memory) →
      m.step = m.conclude i m.memory
        { m.devices with
          output := m.devices.output ++ (bytes.takeWhile (· != 0)).toArray } (.ok ())) := by
  constructor
  · intro m i left reason ready bound
    obtain ⟨devices, walked, delivered, walk⟩ :=
      walk_flat bound m.processor.registers m.memory m.pointer
    have resolved : DeviceBus.resolve m.devices m.processor.registers m.descriptor =
        (.ok .output, m.devices) := by
      simp only [DeviceBus.resolve, bound]
      rfl
    exact ⟨devices, walk, delivered, step_of_output ready resolved walked⟩
  · intro m i memory bytes ready isOutput loaded
    obtain ⟨string, terminated⟩ := Memory.stringFrom_loadString loaded
    have resolved : DeviceBus.resolve m.devices m.processor.registers m.descriptor =
        (.ok .output, m.devices) := by
      rw [isOutput]
      rfl
    refine step_of_output ready resolved ?_
    rw [sendString_flat, sendAll_console, walkEnd, string, if_pos terminated]

/-- A string of three bytes for a printer with room for two; its last cell is zero in the low byte
only. -/
def fullPrinter : Machine 4 Memory DeviceTable where
  processor :=
    { registers :=
        ((Registers.cleared.setRunning true).set descriptorRegister 7).set pointerRegister 1 }
  memory := ⟨#[encode .syscall 0 0 0, 0x141, 0x42, 0x43, 0x100], by decide⟩
  devices := ⟨[(7, .sink (some 2) "full")], List.pairwise_singleton _ _, #[]⟩

/-- A loaded string with a zero byte inside, for a console that has shown a byte before. -/
def splitGreeting : Machine 4 Memory Console where
  processor :=
    { registers :=
        ((Registers.cleared.setRunning true).set descriptorRegister 1).set pointerRegister 1 }
  memory :=
    ((⟨#[encode .syscall 0 0 0, 9, 9, 9, 9], by decide⟩ : Memory).loadString 1 [0x48, 0, 0x49]).2
  devices := { output := #[0x3e] }

theorem strings_sent :
    fullPrinter.AboutToTransfer (.of .syscall 0 0 0) ∧
      fullPrinter.devices.find? fullPrinter.descriptor = some (.sink (some 2) "full") ∧
      (∃ devices,
        Walk fullPrinter.processor.registers 7 1 fullPrinter.memory fullPrinter.devices [0x41, 0x42]
          (.error (.device (.writeFailed "full"))) fullPrinter.memory devices ∧
        Delivered fullPrinter.devices 7 (some 2) "full" [0x41, 0x42] devices ∧
        fullPrinter.step = fullPrinter.conclude (.of .syscall 0 0 0) fullPrinter.memory devices
          (.error (.device (.writeFailed "full")))) ∧
      splitGreeting.AboutToTransfer (.of .syscall 0 0 0) ∧
      splitGreeting.step = splitGreeting.conclude (.of .syscall 0 0 0) splitGreeting.memory
        { splitGreeting.devices with output := #[0x3e, 0x48] } (.ok ()) := by
  have printing : fullPrinter.AboutToTransfer (.of .syscall 0 0 0) :=
    ⟨by decide, rfl, rfl, ⟨encode .syscall 0 0 0, by decide, by decide⟩, by decide⟩
  have greeting : splitGreeting.AboutToTransfer (.of .syscall 0 0 0) :=
    ⟨by decide, rfl, rfl, ⟨encode .syscall 0 0 0, by decide, by decide⟩, by decide⟩
  have loaded : (⟨#[encode .syscall 0 0 0, 9, 9, 9, 9], by decide⟩ : Memory).loadString
      splitGreeting.pointer [0x48, 0, 0x49] = (.ok (), splitGreeting.memory) := by
    decide
  have bound : fullPrinter.devices.find? fullPrinter.descriptor = some (.sink (some 2) "full") := by
    decide
  have taken : Device.taken (some 2) (fullPrinter.memory.stringFrom fullPrinter.pointer.toNat) =
      [0x41, 0x42] := by
    decide
  have result : fullPrinter.memory.sendingResult fullPrinter.pointer (some 2) "full" =
      .error (.device (.writeFailed "full")) := by
    decide
  have sending := step_sends_string.1 printing bound
  rw [taken, result] at sending
  exact ⟨printing, bound, sending, greeting, step_sends_string.2 greeting (by decide) loaded⟩

end Machine

end RegisterMachine

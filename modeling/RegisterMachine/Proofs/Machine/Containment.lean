import RegisterMachine.Proofs.Instruction.Operands
import RegisterMachine.Proofs.Machine.Cycle
import RegisterMachine.Proofs.Machine.Service
import RegisterMachine.Proofs.Processor.Update

/-! # Faults are contained

A cycle that faults can have come far: the word is fetched, its operands are looked up, a byte is
already read or half a string is already written. `Contained` says what is left of it. The processor
keeps all of its state but the running flag and the recorded fault, memory keeps every cell, and the
console shows what the transfer had done by then: the bytes sent before the walk left memory, or the one
byte that was read and found no cell.

`step_faulted_contained` proves this for every machine with flat memory and a console. The argument
looks at where the cycle ended (`Cycle`) and, behind a request, at how the request ended (`Served`).
-/

namespace RegisterMachine.Machine

variable {capacity : Nat}

/-- The instruction at the program counter is a transfer that reaches the device with a descriptor. -/
def Transfers (m : Machine capacity Memory Console) (descriptor : Word) : Prop :=
  m.memoryInstalled = true ∧ m.devicesInstalled = true ∧
    m.processor.registers.get descriptorRegister = descriptor ∧
    ∃ word, m.memory.cells[m.processor.pc.toNat]? = some word ∧
      (Instruction.ofWord word).opcode? = some .syscall

/-- A fault of memory while a byte that was just read is stored. -/
def LosesByte (m : Machine capacity Memory Console) (fault : Fault) : Prop :=
  m.Transfers 0 ∧ m.devices.input ≠ [] ∧ ∃ error, fault = .memory error

def bytesAtPointer (m : Machine capacity Memory Console) : List UInt8 :=
  m.memory.bytesFrom (m.processor.registers.get pointerRegister).toNat

structure ContainedDevices (m : Machine capacity Memory Console) (fault : Fault)
    (console : Console) : Prop where
  /-- Output is sent by a transfer to the output device only, and then as far as memory goes. -/
  output : (m.Transfers 1 ∧ console.output.toList = m.devices.output.toList ++ m.bytesAtPointer) ∨
    (¬ m.Transfers 1 ∧ console.output = m.devices.output)
  /-- Input is lost by a byte that cannot be stored only, and then one byte. -/
  input : (m.LosesByte fault ∧ ∃ byte, m.devices.input = byte :: console.input) ∨
    (¬ m.LosesByte fault ∧ console.input = m.devices.input)
  atEnd : console.atEnd = m.devices.atEnd

/-- The second machine is what a fault makes of the first. -/
structure Contained (m : Machine capacity Memory Console) (fault : Fault)
    (m' : Machine capacity Memory Console) : Prop where
  file : m'.processor.registers.file = m.processor.registers.file
  pc : m'.processor.pc = m.processor.pc
  reserved : m'.processor.registers.flags.reserved = m.processor.registers.flags.reserved
  stopped : m'.running = false
  recorded : m'.processor.fault = some fault
  stack : m'.processor.stack = m.processor.stack
  roles : m'.processor.roles = m.processor.roles
  cycles : m'.processor.cycles = m.processor.cycles
  memory : m'.memory = m.memory
  memoryInstalled : m'.memoryInstalled = m.memoryInstalled
  devicesInstalled : m'.devicesInstalled = m.devicesInstalled
  devices : ContainedDevices m fault m'.devices

/-! ## The console -/

theorem ContainedDevices.of_no_transfer {m : Machine capacity Memory Console} {fault : Fault}
    (elsewhere : ∀ descriptor, ¬ m.Transfers descriptor) :
    ContainedDevices m fault m.devices where
  output := .inr ⟨elsewhere 1, rfl⟩
  input := .inr ⟨fun lost => elsewhere 0 lost.1, rfl⟩
  atEnd := rfl

theorem ContainedDevices.of_transferred {m served : Machine capacity Memory Console} {fault : Fault}
    {descriptor : Word} (transfers : m.devicesInstalled = true → m.Transfers descriptor)
    (failed : Transferred m descriptor (m.processor.registers.get pointerRegister) (.error fault)
      served) :
    ContainedDevices m fault served.devices := by
  cases failed with
  | unresolved installed notInput notOutput =>
    -- The descriptor register holds one value, and it is neither 0 nor 1.
    have held := (transfers installed).2.2.1
    refine ⟨.inr ⟨fun sends => ?_, rfl⟩, .inr ⟨fun lost => ?_, rfl⟩, rfl⟩
    · exact notOutput (held.symm.trans sends.2.2.1)
    · exact notInput (held.symm.trans lost.1.2.2.1)
  | exhausted installed isInput empty =>
    subst isInput
    have held := (transfers installed).2.2.1
    refine ⟨.inr ⟨fun sends => ?_, rfl⟩, .inr ⟨fun lost => lost.2.1 empty, rfl⟩, rfl⟩
    exact absurd (held.symm.trans sends.2.2.1) (by decide)
  | misplaced installed isInput queued outside =>
    subst isInput
    have held := (transfers installed).2.2.1
    refine ⟨.inr ⟨fun sends => ?_, rfl⟩, .inl ⟨⟨transfers installed, ?_, _, rfl⟩, _, queued⟩, rfl⟩
    · exact absurd (held.symm.trans sends.2.2.1) (by decide)
    · simp [queued]
  | unterminated installed isOutput endless =>
    subst isOutput
    have held := (transfers installed).2.2.1
    refine ⟨.inl ⟨transfers installed, ?_⟩, .inr ⟨fun lost => ?_, rfl⟩, rfl⟩
    · simp [bytesAtPointer]
    · exact absurd (held.symm.trans lost.1.2.2.1) (by decide)

/-! ## The processor and memory -/

theorem contained_stop {m served : Machine capacity Memory Console} {fault : Fault}
    (surrounds : Surrounds m served) (memory : served.memory = m.memory)
    (devices : ContainedDevices m fault served.devices) :
    Contained m fault (served.modifyProcessor (·.stop fault)) := by
  obtain ⟨processor, memoryInstalled, devicesInstalled⟩ := surrounds
  have stopped : (served.modifyProcessor (·.stop fault)).processor = m.processor.stop fault := by
    rw [← processor]
    rfl
  constructor
  case file => rw [stopped, Processor.registers_stop, Registers.file_setRunning]
  case pc => rw [stopped, Processor.pc_stop]
  case reserved => rw [stopped, Processor.registers_stop, Registers.reserved_setRunning_false]
  case stopped =>
    show (served.modifyProcessor (·.stop fault)).processor.registers.running = false
    rw [stopped, Processor.registers_stop, Registers.running_setRunning_false]
  case recorded => rw [stopped, Processor.fault_stop]
  case stack => rw [stopped, Processor.stack_stop]
  case roles => rw [stopped, Processor.roles_stop]
  case cycles => rw [stopped, Processor.cycles_stop]
  case memory => exact memory
  case memoryInstalled => exact memoryInstalled
  case devicesInstalled => exact devicesInstalled
  case devices => exact devices

/-- A transfer that is not to be performed, because the instruction at the program counter resolves to
something else. -/
theorem not_transfers_of_request {m : Machine capacity Memory Console} {word : Word}
    (fetched : m.memory.cells[m.processor.pc.toNat]? = some word)
    (other : ∀ descriptor pointer, (Instruction.ofWord word).request m.processor.registers
      m.processor.pc ≠ .ok (.transfer descriptor pointer)) (descriptor : Word) :
    ¬ m.Transfers descriptor := by
  rintro ⟨_, _, _, word', fetched', known⟩
  rw [fetched] at fetched'
  cases fetched'
  exact other _ _ (Instruction.request_syscall known _ _)

theorem contained_of_served {m served : Machine capacity Memory Console} {word : Word}
    {request : Request} {fault : Fault} (reachable : m.memoryInstalled = true)
    (fetched : m.memory.cells[m.processor.pc.toNat]? = some word)
    (resolved : (Instruction.ofWord word).request m.processor.registers m.processor.pc = .ok request)
    (failed : Served m request (.error fault) served) :
    served.memory = m.memory ∧ ContainedDevices m fault served.devices := by
  cases failed with
  | unloaded outside | unstored outside =>
    refine ⟨rfl, .of_no_transfer (not_transfers_of_request fetched ?_)⟩
    intro descriptor pointer transfers
    rw [resolved] at transfers
    cases transfers
  | untransferred transfer =>
    have known := Instruction.opcode?_of_request_transfer resolved
    rw [Instruction.request_syscall known] at resolved
    cases resolved
    have transfers (installed : m.devicesInstalled = true) :
        m.Transfers (m.processor.registers.get descriptorRegister) :=
      ⟨reachable, installed, rfl, word, fetched, known⟩
    refine ⟨?_, .of_transferred transfers transfer⟩
    cases transfer <;> rfl

/-- A fault is contained: the processor keeps everything but the running flag and records the fault,
memory keeps every cell, and the console shows what the transfer had done before it failed. -/
theorem step_faulted_contained {m m' : Machine capacity Memory Console} {fault : Fault}
    (faulted : m.step = (.faulted fault, m')) : Contained m fault m' := by
  cases cycle_of_step faulted with
  | @unfetched fetched error running fetch =>
    obtain rfl := unfetched_flat fetch
    rw [load_flat] at fetch
    refine contained_stop (.refl fetched) rfl (.of_no_transfer ?_)
    -- Whatever is fetched for a transfer could have been fetched here.
    rintro descriptor ⟨reachable, _, _, word, cell, _⟩
    rw [readFlat, if_pos reachable, Memory.read_eq_ok_iff.2 cell] at fetch
    cases (Prod.mk.inj fetch).1
  | @misnamed fetched word fault running fetch request =>
    -- A transfer has no operands, so that an instruction with a bad one is none.
    obtain ⟨rfl, _, cell⟩ := fetch_flat fetch
    refine contained_stop (.refl fetched) rfl (.of_no_transfer (not_transfers_of_request cell ?_))
    intro descriptor pointer transfers
    rw [request] at transfers
    cases transfers
  | @unserved fetched served word demand fault running fetch request serve =>
    obtain ⟨rfl, reachable, cell⟩ := fetch_flat fetch
    obtain ⟨memory, devices⟩ :=
      contained_of_served reachable cell request (served_of_serve reachable serve)
    exact contained_stop (surrounds_of_serve serve) memory devices

/-- A string of two bytes without a zero behind it, about to be sent. -/
def unterminatedString : Machine 4 Memory Console where
  processor :=
    { registers :=
        ((Registers.cleared.setRunning true).set descriptorRegister 1).set pointerRegister 1
      cycles := 9 }
  memory := ⟨#[encode .syscall 0 0 0, 0x141, 0x42], by decide⟩
  devices := { input := [7], output := #[1] }

theorem unterminatedString_contained :
    unterminatedString.step.1 = .faulted (.memory (.outOfBounds 3)) ∧
      unterminatedString.step.2.devices.output = #[1, 0x41, 0x42] ∧
      Contained unterminatedString (.memory (.outOfBounds 3)) unterminatedString.step.2 := by
  have faulted : unterminatedString.step =
      (.faulted (.memory (.outOfBounds 3)), unterminatedString.step.2) :=
    Prod.ext (by decide +kernel) rfl
  exact ⟨by decide +kernel, by decide +kernel, step_faulted_contained faulted⟩

end RegisterMachine.Machine

import RegisterMachine.Device.Console
import RegisterMachine.Proofs.Machine.History
import RegisterMachine.Proofs.Machine.Strings

/-! # Reserved state

Fifteen of the flag bits, the stack, the recorded fault and the count of instructions are kept for the
host. Over flat memory and a console no program can tell what they hold: machines that agree on
everything else (`Agree`) go on to agree, cycle after cycle, and each cycle ends in the same way on both
(`agree_step`). In turn no cycle touches the fifteen bits or the stack (`KeepsReserve`).

Memory and console are shown the flags with every request, so that this is a property of theirs as well:
what they do is the same for every processor (`serve_withProcessor`).
-/

namespace RegisterMachine

variable {capacity capacity' : Nat}

/-! ## Processors -/

/-- The processors hold the same registers, both run or neither does, and they have given the special
roles to the same registers. -/
structure Processor.Agree (p : Processor capacity) (p' : Processor capacity') : Prop where
  file : p'.registers.file = p.registers.file
  running : p'.running = p.running
  roles : p'.roles = p.roles

namespace Processor.Agree

variable {p : Processor capacity} {p' : Processor capacity'}

theorem get (agree : p.Agree p') (i : RegisterIndex) : p'.registers.get i = p.registers.get i := by
  rw [Registers.get, agree.file]
  rfl

theorem pc (agree : p.Agree p') : p'.pc = p.pc := by
  rw [Processor.pc, agree.roles, agree.get]
  rfl

theorem request (agree : p.Agree p') (i : Instruction) :
    i.request p'.registers p'.pc = i.request p.registers p.pc := by
  obtain ⟨⟨file, flags⟩, _, _, _, _⟩ := p
  obtain ⟨⟨file', flags'⟩, _, _, _, _⟩ := p'
  rw [agree.pc]
  cases agree.file
  unfold Instruction.request
  cases i.opcode? with
  | none => rfl
  | some op => cases op <;> rfl

theorem stop (agree : p.Agree p') (fault : Fault) : (p.stop fault).Agree (p'.stop fault) where
  file := agree.file
  running := by
    rw [Processor.running, Processor.running, registers_stop, registers_stop,
      Registers.running_setRunning_false, Registers.running_setRunning_false]
  roles := agree.roles

theorem setRegister (agree : p.Agree p') (i : RegisterIndex) (value : Word) :
    (p.setRegister i value).Agree (p'.setRegister i value) where
  file := congrArg (fun file : Vector Word registerCount => file.set i.val value i.isLt) agree.file
  running := agree.running
  roles := agree.roles

theorem setPc (agree : p.Agree p') (value : Word) : (p.setPc value).Agree (p'.setPc value) := by
  unfold Processor.setPc
  rw [agree.roles]
  exact agree.setRegister p.roles.pc value

theorem advance (agree : p.Agree p') : p.advance.Agree p'.advance := by
  unfold Processor.advance
  rw [agree.pc]
  exact agree.setPc (p.pc + 1)

theorem count (agree : p.Agree p') : p.count.Agree p'.count :=
  ⟨agree.file, agree.running, agree.roles⟩

theorem complete (agree : p.Agree p') (effect : Effect) :
    (p.complete effect).Agree (p'.complete effect) := by
  cases effect with
  | advance => exact agree.advance.count
  | assign target value => exact (agree.setRegister target value).advance.count
  | jump target => exact (agree.setPc target).count
  | halt =>
    have halted := agree.stop (.register 0)
    exact ⟨halted.file, halted.running, halted.roles⟩

end Processor.Agree

namespace Machine

/-! ## Requests of another processor -/

section Requests

variable {μ δ : Type}

def withProcessor (p : Processor capacity') (m : Machine capacity μ δ) : Machine capacity' μ δ :=
  ⟨p, m.memory, m.devices, m.memoryInstalled, m.devicesInstalled⟩

variable (p : Processor capacity')

theorem load_withProcessor (m : Machine capacity Memory δ) (address : Word) :
    (m.withProcessor p).load address = (m.load address).map id (withProcessor p) := by
  rw [load_flat, load_flat]
  rfl

theorem store_withProcessor (m : Machine capacity Memory δ) (address value : Word) :
    (m.withProcessor p).store address value =
      (m.store address value).map id (withProcessor p) := by
  obtain ⟨processor, memory, devices, memoryInstalled, devicesInstalled⟩ := m
  cases memoryInstalled <;> rfl

theorem receiveInto_withProcessor [DeviceBus δ] (m : Machine capacity Memory δ)
    (descriptor pointer : Word) :
    (m.withProcessor p).receiveInto descriptor pointer =
      (m.receiveInto descriptor pointer).map id (withProcessor p) := by
  obtain ⟨processor, memory, devices, memoryInstalled, devicesInstalled⟩ := m
  simp only [withProcessor, receiveInto]
  cases DeviceBus.receive devices descriptor with
  | mk answer devices' =>
    cases answer with
    | error error => rfl
    | ok byte =>
      have stored := store_withProcessor p
        ⟨processor, memory, devices', memoryInstalled, devicesInstalled⟩ pointer byte.toUInt64
      simp only [withProcessor] at stored
      simp only [stored]
      cases store ⟨processor, memory, devices', memoryInstalled, devicesInstalled⟩ pointer
          byte.toUInt64 with
      | mk answer m => cases answer <;> rfl

theorem sendFrom_withProcessor [DeviceBus δ] (m : Machine capacity Memory δ)
    (descriptor pointer : Word) :
    (m.withProcessor p).sendFrom descriptor pointer =
      (m.sendFrom descriptor pointer).map id (withProcessor p) := by
  obtain ⟨processor, memory, devices, memoryInstalled, devicesInstalled⟩ := m
  cases memoryInstalled with
  | false => rfl
  | true =>
    simp only [withProcessor, sendFrom, sendString_flat]
    rfl

theorem transfer_withProcessor (m : Machine capacity Memory Console) (descriptor pointer : Word) :
    (m.withProcessor p).transfer descriptor pointer =
      (m.transfer descriptor pointer).map id (withProcessor p) := by
  obtain ⟨processor, memory, devices, memoryInstalled, devicesInstalled⟩ := m
  cases devicesInstalled with
  | false => rfl
  | true =>
    let m : Machine capacity Memory Console := ⟨processor, memory, devices, memoryInstalled, true⟩
    simp only [withProcessor, transfer, DeviceBus.resolve]
    cases Console.direction descriptor with
    | error error => rfl
    | ok direction =>
      cases direction with
      | input => exact receiveInto_withProcessor p m descriptor pointer
      | output => exact sendFrom_withProcessor p m descriptor pointer

theorem serve_withProcessor (m : Machine capacity Memory Console) (demand : Request) :
    (m.withProcessor p).serve demand = (m.serve demand).map id (withProcessor p) := by
  cases demand with
  | finish effect => rfl
  | load target address =>
    simp only [serve, load_withProcessor]
    cases m.load address with
    | mk answer m => cases answer <;> rfl
  | store address value =>
    simp only [serve, store_withProcessor]
    cases m.store address value with
    | mk answer m => cases answer <;> rfl
  | transfer descriptor pointer =>
    simp only [serve, transfer_withProcessor]
    cases m.transfer descriptor pointer with
    | mk answer m => cases answer <;> rfl

end Requests

/-! ## One cycle -/

/-- The machines have the same memory and console, both within reach or both out of it, and processors
that agree. -/
structure Agree (m : Machine capacity Memory Console) (m' : Machine capacity' Memory Console) :
    Prop where
  processor : m.processor.Agree m'.processor
  memory : m'.memory = m.memory
  devices : m'.devices = m.devices
  memoryInstalled : m'.memoryInstalled = m.memoryInstalled
  devicesInstalled : m'.devicesInstalled = m.devicesInstalled

section Agree

variable {m : Machine capacity Memory Console} {m' : Machine capacity' Memory Console}

theorem Agree.eq_withProcessor (agree : Agree m m') : m' = m.withProcessor m'.processor := by
  obtain ⟨processor, memory, devices, memoryInstalled, devicesInstalled⟩ := m'
  obtain ⟨_, rfl, rfl, rfl, rfl⟩ := agree
  rfl

theorem agree_withProcessor {p : Processor capacity'} (agree : m.processor.Agree p) :
    Agree m (m.withProcessor p) :=
  ⟨agree, rfl, rfl, rfl, rfl⟩

theorem agree_execute {p : Processor capacity'} (agree : m.processor.Agree p) (word : Word) :
    ((m.withProcessor p).execute word).1 = (m.execute word).1 ∧
      Agree (m.execute word).2 ((m.withProcessor p).execute word).2 := by
  have request := agree.request (.ofWord word)
  have other : (m.withProcessor p).processor = p := rfl
  simp only [execute, other, request]
  cases (Instruction.ofWord word).request m.processor.registers m.processor.pc with
  | error trap =>
    cases trap with
    | fault fault => exact ⟨rfl, agree.stop fault, rfl, rfl, rfl, rfl⟩
    | fatal error => exact ⟨rfl, agree_withProcessor agree⟩
  | ok demand =>
    dsimp only
    rw [serve_withProcessor]
    rcases serve : m.serve demand with ⟨answer, served⟩
    -- What is served leaves the processors as they are, so that they still agree.
    have kept : served.processor.Agree p := by
      rw [(surrounds_of_serve serve).processor]
      exact agree
    cases answer with
    | error fault => exact ⟨rfl, kept.stop fault, rfl, rfl, rfl, rfl⟩
    | ok effect => exact ⟨rfl, kept.complete effect, rfl, rfl, rfl, rfl⟩

theorem agree_step (agree : Agree m m') : m'.step.1 = m.step.1 ∧ Agree m.step.2 m'.step.2 := by
  have running : m'.running = m.running := agree.processor.running
  have pc := agree.processor.pc
  cases active : m.running with
  | false =>
    rw [step_of_stopped active, step_of_stopped (running.trans active)]
    exact ⟨rfl, agree⟩
  | true =>
    rw [agree.eq_withProcessor] at running ⊢
    have other : (m.withProcessor m'.processor).processor.pc = m.processor.pc := pc
    have read : (m.withProcessor m'.processor).readFlat m.processor.pc =
        m.readFlat m.processor.pc := rfl
    simp only [step, running, active, if_true, other, load_flat, read]
    cases m.readFlat m.processor.pc with
    | error error => exact ⟨rfl, agree.processor.stop _, rfl, rfl, rfl, rfl⟩
    | ok word => exact agree_execute agree.processor word

end Agree

/-- The second machine has the flag bits other than `running` and the stack of the first. -/
structure KeepsReserve {μ δ : Type} (m m' : Machine capacity μ δ) : Prop where
  reserved : m'.processor.registers.flags.reserved = m.processor.registers.flags.reserved
  stack : m'.processor.stack = m.processor.stack

theorem keepsReserve_step {μ δ : Type} [MemoryBus μ] [DeviceBus δ] [StringsEnd μ δ]
    (m : Machine capacity μ δ) : KeepsReserve m m.step.2 := by
  rcases stepped : m.step with ⟨outcome, m'⟩
  have processor := processor_of_step stepped
  cases outcome with
  | idle | fatal _ =>
    have same : m'.processor = m.processor := processor
    exact ⟨by rw [same], by rw [same]⟩
  | faulted fault =>
    have stopped : m'.processor = m.processor.stop fault := processor
    constructor
    · rw [stopped, Processor.registers_stop, Registers.reserved_setRunning_false]
    · rw [stopped, Processor.stack_stop]
  | executed i =>
    obtain ⟨effect, completed⟩ := processor
    exact ⟨by rw [completed, Processor.reserved_complete], by rw [completed, Processor.stack_complete]⟩

/-! ## Cycle after cycle -/

def stepTimes {μ δ : Type} [MemoryBus μ] [DeviceBus δ] [StringsEnd μ δ] :
    Nat → Machine capacity μ δ → List Outcome × Machine capacity μ δ
  | 0, m => ([], m)
  | n + 1, m => (m.step.1 :: (stepTimes n m.step.2).1, (stepTimes n m.step.2).2)

theorem keepsReserve_stepTimes {μ δ : Type} [MemoryBus μ] [DeviceBus δ] [StringsEnd μ δ] (n : Nat)
    (m : Machine capacity μ δ) : KeepsReserve m (stepTimes n m).2 := by
  induction n generalizing m with
  | zero => exact ⟨rfl, rfl⟩
  | succ n inductionHypothesis =>
    have first := keepsReserve_step m
    have rest := inductionHypothesis m.step.2
    exact ⟨rest.reserved.trans first.reserved, rest.stack.trans first.stack⟩

theorem agree_stepTimes {m : Machine capacity Memory Console}
    {m' : Machine capacity' Memory Console} (agree : Agree m m') (n : Nat) :
    (stepTimes n m').1 = (stepTimes n m).1 ∧ Agree (stepTimes n m).2 (stepTimes n m').2 := by
  induction n generalizing m m' with
  | zero => exact ⟨rfl, agree⟩
  | succ n inductionHypothesis =>
    obtain ⟨outcome, after⟩ := agree_step agree
    obtain ⟨outcomes, final⟩ := inductionHypothesis after
    exact ⟨congrArg₂ List.cons outcome outcomes, final⟩

/-- Machines that differ in nothing but reserved state perform the same cycles and never come to differ
in anything else, while each of them keeps its own fifteen flag bits and its own stack. -/
theorem stepTimes_of_agree {m : Machine capacity Memory Console}
    {m' : Machine capacity' Memory Console} (agree : Agree m m') (n : Nat) :
    (stepTimes n m').1 = (stepTimes n m).1 ∧ Agree (stepTimes n m).2 (stepTimes n m').2 ∧
      KeepsReserve m (stepTimes n m).2 ∧ KeepsReserve m' (stepTimes n m').2 := by
  obtain ⟨outcomes, after⟩ := agree_stepTimes agree n
  exact ⟨outcomes, after, keepsReserve_stepTimes n m, keepsReserve_stepTimes n m'⟩

/-- A program that writes a transfer over its second instruction and so sends the byte of its last
cell. -/
def selfWriter : Machine 4 Memory Console where
  processor :=
    { registers :=
        (((Registers.cleared.setRunning true).set descriptorRegister 1).set pointerRegister 3).set
          ⟨5, by decide⟩ (encode .syscall 0 0 0) }
  memory := ⟨#[encode .store 5 1 0, encode .nop 0 0 0, encode .halt 0 0 0, 0x141, 0], by decide⟩
  devices := { input := [7] }

/-- The same with all flags set, an entry on a smaller stack, and the fault and the count of an earlier
run. -/
def markedWriter : Machine 2 Memory Console :=
  selfWriter.withProcessor
    { registers := { selfWriter.processor.registers with flags := ⟨0xffff⟩ }
      stack := (Stack.empty.push 9).2
      fault := some (.register 16)
      cycles := 40 }

theorem markedWriter_agrees :
    Agree selfWriter markedWriter ∧
      (stepTimes 4 selfWriter).1 =
        [.executed (.of .store 5 1 0), .executed (.of .syscall 0 0 0), .executed (.of .halt 0 0 0),
          .idle] ∧
      (stepTimes 4 markedWriter).1 = (stepTimes 4 selfWriter).1 ∧
      (stepTimes 4 markedWriter).2.devices.output = #[0x41] ∧
      (stepTimes 4 markedWriter).2.processor.registers.flags.reserved = 0xfffe := by
  have agree : Agree selfWriter markedWriter := ⟨⟨rfl, by decide, rfl⟩, rfl, rfl, rfl, rfl⟩
  obtain ⟨outcomes, after, _, keeps⟩ := stepTimes_of_agree agree 4
  refine ⟨agree, by decide +kernel, outcomes, ?_, ?_⟩
  · rw [after.devices]
    decide +kernel
  · rw [keeps.reserved]
    decide

end Machine

end RegisterMachine

import Mathlib.Algebra.BigOperators.Intervals
import RegisterMachine.Device.Console
import RegisterMachine.Proofs.Instruction.Fields
import RegisterMachine.Proofs.Machine.Loops
import RegisterMachine.Proofs.Memory.Cells

/-! # A counting loop

A program that adds up the numbers below a bound, run to its end for every bound. Three registers carry it: a
counter, the sum of the numbers counted so far, and the bound. `looping` describes a machine within the loop
by what may have changed, which is the program counter, two registers and the count of completed
instructions.

Each instruction of the loop takes one such machine to the next. `cyclesFor_pass` puts three of them together
to a pass, `cyclesFor_passes` is the induction on the number of passes, and `countingLoop_closed` reads the
result off its end.
-/

namespace RegisterMachine

/-! ## The program -/

/-- Adds up the numbers below the bound in r6. The counter is r2 and the sum r5. The first three instructions
choose a start, the next three are the loop. -/
def countingLoop : List Word :=
  [encode .movi 2 0 0, encode .movi 5 0 0, encode .movi 6 10 0, encode .add 5 2 0, encode .addi 2 1 0,
   encode .blt 2 6 3, encode .halt 0 0 0]

/-! ## The state of the loop -/

namespace Registers

variable (r : Registers) (address counter sum value : Word)

def looping : Registers :=
  ((r.set Roles.standard.pc address).set (.ofSlot 2) counter).set (.ofSlot 5) sum

theorem looping_eq :
    r.looping address counter sum = ((r.set 0 address).set 2 counter).set 5 sum := rfl

theorem get_looping (i : RegisterIndex) :
    (r.looping address counter sum).get i =
      if i = 5 then sum else if i = 2 then counter else if i = 0 then address else r.get i := by
  simp only [looping_eq, get_set]

theorem set_address_looping :
    (r.looping address counter sum).set 0 value = r.looping value counter sum := by
  simp only [looping_eq]
  -- The address stands innermost: the new one has to pass the sum and the counter.
  rw [set_comm _ (by decide), set_comm (r.set 0 address) (by decide), set_set]

theorem set_counter_looping :
    (r.looping address counter sum).set 2 value = r.looping address value sum := by
  simp only [looping_eq]
  rw [set_comm _ (by decide), set_set]

theorem set_sum_looping :
    (r.looping address counter sum).set 5 value = r.looping address counter value :=
  set_set _ _ _ _

end Registers

namespace Processor

variable {capacity : Nat}

/-- The same processor within the loop, behind a number of completed instructions. -/
def looping (p : Processor capacity) (address counter sum : Word) (done : Nat) :
    Processor capacity :=
  { p with
    registers := p.registers.looping address counter sum
    cycles := p.cycles + done }

variable {p : Processor capacity} (standard : p.roles = .standard)
  (address counter sum value : Word) (done : Nat)

include standard

theorem pc_looping : (p.looping address counter sum done).pc = address := by
  have register : (p.looping address counter sum done).roles.pc = 0 := congrArg Roles.pc standard
  rw [pc, register]
  exact p.registers.get_looping address counter sum 0

theorem setPc_looping :
    (p.looping address counter sum done).setPc value = p.looping value counter sum done := by
  have register : (p.looping address counter sum done).roles.pc = 0 := congrArg Roles.pc standard
  rw [setPc, register, setRegister]
  simp only [looping, Registers.set_address_looping]

theorem complete_advance_looping :
    (p.looping address counter sum done).complete .advance =
      p.looping (address + 1) counter sum (done + 1) := by
  rw [complete, advance, pc_looping standard, setPc_looping standard]
  rfl

theorem complete_sum_looping :
    (p.looping address counter sum done).complete (.assign 5 value) =
      p.looping (address + 1) counter value (done + 1) := by
  rw [← complete_advance_looping standard]
  simp only [complete, setRegister, looping, Registers.set_sum_looping]

theorem complete_counter_looping :
    (p.looping address counter sum done).complete (.assign 2 value) =
      p.looping (address + 1) value sum (done + 1) := by
  rw [← complete_advance_looping standard]
  simp only [complete, setRegister, looping, Registers.set_counter_looping]

theorem complete_jumpIf_looping (taken : Bool) :
    (p.looping address counter sum done).complete (.jumpIf taken value) =
      p.looping (if taken then value else address + 1) counter sum (done + 1) := by
  cases taken with
  | true =>
    show ((p.looping address counter sum done).setPc value).count = _
    rw [setPc_looping standard]
    rfl
  | false => exact complete_advance_looping standard address counter sum done

end Processor

namespace Machine

variable {capacity : Nat} {δ : Type} [DeviceBus δ] {m : Machine capacity Memory δ}

/-! ## One instruction -/

theorem step_of_finish {i : Instruction} {effect : Effect} (running : m.running = true)
    (installed : m.memoryInstalled = true)
    (fetched : m.memory.cells[m.processor.pc.toNat]? = some i.toWord)
    (asked : i.request m.processor.registers m.processor.pc = .ok (.finish effect)) :
    m.step = (.executed i, m.modifyProcessor (·.complete effect)) := by
  rw [step_flat running installed fetched, execute, Instruction.ofWord_toWord, asked]
  rfl

theorem cyclesFor_of_executed {i : Instruction} {m' : Machine capacity Memory δ}
    (running : m.running = true) (stepped : m.step = (.executed i, m')) (budget : Nat) :
    cyclesFor (budget + 1) m = cyclesFor budget m' :=
  cyclesFor_succ running stepped

/-- A running machine with the loop in the first cells of its memory. -/
structure HoldsLoop (m : Machine capacity Memory δ) : Prop where
  code : ∀ (i : Nat) (inside : i < countingLoop.length), m.memory.cells[i]? = some countingLoop[i]
  installed : m.memoryInstalled = true
  roles : m.processor.roles = .standard
  running : m.running = true

def looping (m : Machine capacity Memory δ) (address counter sum : Word) (done : Nat) :
    Machine capacity Memory δ :=
  m.modifyProcessor (·.looping address counter sum done)

section Cycles

variable (holds : HoldsLoop m) (counter sum : Word) (done : Nat)

include holds

theorem step_looping {address : Word} {i : Instruction} {effect : Effect} {p : Processor capacity}
    (listed : countingLoop[address.toNat]? = some i.toWord)
    (asked : i.request (m.processor.registers.looping address counter sum) address =
      .ok (.finish effect))
    (completed : (m.processor.looping address counter sum done).complete effect = p) :
    (m.looping address counter sum done).step = (.executed i, { m with processor := p }) := by
  have here : (m.looping address counter sum done).processor.pc = address :=
    Processor.pc_looping holds.roles address counter sum done
  obtain ⟨inside, entry⟩ := List.getElem?_eq_some_iff.1 listed
  rw [← completed]
  refine step_of_finish holds.running holds.installed ?_ ?_
  · rw [here, ← entry]
    exact holds.code _ inside
  · rw [here]
    exact asked

theorem step_add : (m.looping 3 counter sum done).step =
    (.executed (.of .add 5 2 0), m.looping 4 counter (sum + counter) (done + 1)) := by
  refine step_looping holds counter sum done rfl ?_
    (Processor.complete_sum_looping holds.roles 3 counter sum (sum + counter) done)
  show Except.ok (Request.finish (.assign 5 (Registers.get _ 5 + Registers.get _ 2))) = _
  rw [Registers.get_looping, Registers.get_looping]
  rfl

theorem step_addi : (m.looping 4 counter sum done).step =
    (.executed (.of .addi 2 1 0), m.looping 5 (counter + 1) sum (done + 1)) := by
  refine step_looping holds counter sum done rfl ?_
    (Processor.complete_counter_looping holds.roles 4 counter sum (counter + 1) done)
  show Except.ok (Request.finish (.assign 2 (Registers.get _ 2 + 1))) = _
  rw [Registers.get_looping]
  rfl

theorem step_blt : (m.looping 5 counter sum done).step =
    (.executed (.of .blt 2 6 3),
      m.looping (if counter < m.processor.registers.get 6 then 3 else 6) counter sum (done + 1)) := by
  have completed := Processor.complete_jumpIf_looping holds.roles 5 counter sum 3 done
    (decide (counter < m.processor.registers.get 6))
  simp only [decide_eq_true_eq] at completed
  have known : (Instruction.of .blt 2 6 3).opcode? = some .blt := rfl
  refine step_looping holds counter sum done rfl ?_ completed
  -- A branch decides between two requests; as a demand it is one, with the comparison as its flag.
  rw [Instruction.request_of_sound _ known (by decide) (by simp [Instruction.DividesByZero])]
  show Except.ok (Request.finish (.jumpIf (decide (Registers.get _ 2 < Registers.get _ 6)) 3)) = _
  rw [Registers.get_looping, Registers.get_looping]
  rfl

theorem step_halt : (m.looping 6 counter sum done).step =
    (.executed (.of .halt 0 0 0),
      (m.looping 6 counter sum (done + 1)).modifyProcessor (·.setRunning false)) :=
  step_looping holds counter sum done rfl rfl rfl

/-! ## Passes -/

omit [DeviceBus δ] in
theorem running_looping (address : Word) : (m.looping address counter sum done).running = true :=
  holds.running

/-- One pass: the counter is added and goes up, and the loop is left once it is no longer below the
bound. -/
theorem cyclesFor_pass :
    cyclesFor 3 (m.looping 3 counter sum done) =
      (none, m.looping (if counter + 1 < m.processor.registers.get 6 then 3 else 6)
        (counter + 1) (sum + counter) (done + 3)) :=
  calc cyclesFor 3 (m.looping 3 counter sum done)
    _ = cyclesFor 2 (m.looping 4 counter (sum + counter) (done + 1)) :=
      cyclesFor_of_executed (running_looping holds _ _ _ _) (step_add holds _ _ _) 2
    _ = cyclesFor 1 (m.looping 5 (counter + 1) (sum + counter) (done + 2)) :=
      cyclesFor_of_executed (running_looping holds _ _ _ _) (step_addi holds _ _ _) 1
    _ = cyclesFor 0 (m.looping (if counter + 1 < m.processor.registers.get 6 then 3 else 6)
          (counter + 1) (sum + counter) (done + 3)) :=
      cyclesFor_of_executed (running_looping holds _ _ _ _) (step_blt holds _ _ _) 0

/-- The loop after some of its passes: the counter says how many, and the sum is that of the numbers
below it. -/
theorem cyclesFor_passes {bound : Nat} (bounded : (m.processor.registers.get 6).toNat = bound)
    (positive : 0 < bound) (passes : Nat) (within : passes ≤ bound) :
    cyclesFor (3 * passes) (m.looping 3 0 0 0) =
      (none, m.looping (if passes < bound then 3 else 6) (.ofNat passes)
        (.ofNat (∑ i ∈ Finset.range passes, i)) (3 * passes)) := by
  induction passes with
  | zero =>
    rw [if_pos positive]
    rfl
  | succ passes inductionHypothesis =>
    have fewer : passes < bound := within
    have representable : passes + 1 < UInt64.size :=
      within.trans_lt (bounded ▸ UInt64.toNat_lt_size _)
    have again : UInt64.ofNat passes + 1 < m.processor.registers.get 6 ↔ passes + 1 < bound := by
      have counter : UInt64.ofNat passes + 1 = .ofNat (passes + 1) := (UInt64.ofNat_add passes 1).symm
      rw [counter, UInt64.lt_iff_toNat_lt, UInt64.toNat_ofNat_of_lt' representable, bounded]
    -- The passes before this one left the loop at its entrance, since there are fewer than the bound.
    rw [Nat.mul_succ, cyclesFor_add, inductionHypothesis fewer.le, if_pos fewer]
    simp only [cyclesFor_pass holds, again, Finset.sum_range_succ, UInt64.ofNat_add]
    rfl

theorem cyclesFor_loop {bound : Nat} (bounded : (m.processor.registers.get 6).toNat = bound)
    (positive : 0 < bound) :
    cyclesFor (3 * bound + 1) (m.looping 3 0 0 0) =
      (none, (m.looping 6 (.ofNat bound) (.ofNat (bound * (bound - 1) / 2))
        (3 * bound + 1)).modifyProcessor (·.setRunning false)) := by
  rw [cyclesFor_add, cyclesFor_passes holds bounded positive bound (Nat.le_refl bound),
    if_neg (Nat.lt_irrefl bound), Finset.sum_range_id]
  exact cyclesFor_of_executed (running_looping holds _ _ _ _) (step_halt holds _ _ _) 0

end Cycles

/-! ## The closed form -/

omit [DeviceBus δ] in
theorem looping_self (standard : m.processor.roles = .standard) (entered : m.processor.pc = 3)
    (uncounted : m.processor.registers.get 2 = 0) (empty : m.processor.registers.get 5 = 0) :
    m.looping 3 0 0 0 = m := by
  have address : m.processor.registers.get 0 = 3 := by
    rw [← entered, Processor.pc, standard]
    rfl
  have same : m.processor.registers.looping 3 0 0 = m.processor.registers := by
    rw [Registers.looping_eq, ← address, Registers.set_get, ← uncounted, Registers.set_get,
      uncounted, ← empty, Registers.set_get]
  simp only [looping, Processor.looping, modifyProcessor, same, Nat.add_zero]

omit [DeviceBus δ] in
theorem HoldsLoop.of_loaded {blank : Memory} (room : countingLoop.length ≤ blank.size)
    (loaded : m.memory = (blank.loadProgram 0 countingLoop).2) (installed : m.memoryInstalled = true)
    (standard : m.processor.roles = .standard) (running : m.running = true) : HoldsLoop m where
  code i inside := by
    rw [loaded, Memory.getElem?_loadProgram (Memory.loadProgram_fits room),
      if_pos ⟨Nat.zero_le i, (Nat.zero_add _).symm ▸ inside⟩]
    exact List.getElem?_eq_getElem inside
  installed := installed
  roles := standard
  running := running

/-- What a machine that ran the loop to its end has become. -/
structure Summed (bound : Nat) (m ended : Machine capacity Memory δ) : Prop where
  stopped : ended.running = false
  pc : ended.processor.pc = 6
  counter : (ended.processor.registers.get 2).toNat = bound
  limit : (ended.processor.registers.get 6).toNat = bound
  /-- The numbers below the bound, added up modulo the number of words. -/
  sum : (ended.processor.registers.get 5).toNat = bound * (bound - 1) / 2 % UInt64.size
  others : ∀ i : RegisterIndex, i ∉ [0, 2, 5] →
    ended.processor.registers.get i = m.processor.registers.get i
  reserved : ended.processor.registers.flags.reserved = m.processor.registers.flags.reserved
  cycles : ended.processor.cycles = m.processor.cycles + (3 * bound + 1)
  fault : ended.processor.fault = m.processor.fault
  stack : ended.processor.stack = m.processor.stack
  roles : ended.processor.roles = m.processor.roles
  memory : ended.memory = m.memory
  devices : ended.devices = m.devices
  memoryInstalled : ended.memoryInstalled = m.memoryInstalled
  devicesInstalled : ended.devicesInstalled = m.devicesInstalled

omit [DeviceBus δ] in
theorem summed_looping {bound : Nat} (holds : HoldsLoop m)
    (bounded : (m.processor.registers.get 6).toNat = bound) :
    Summed bound m ((m.looping 6 (.ofNat bound) (.ofNat (bound * (bound - 1) / 2))
      (3 * bound + 1)).modifyProcessor (·.setRunning false)) := by
  have representable : bound < UInt64.size := bounded ▸ UInt64.toNat_lt_size _
  -- Clearing the running flag leaves the register file of the loop.
  have registers := m.processor.registers.get_looping 6 (.ofNat bound)
    (.ofNat (bound * (bound - 1) / 2))
  exact {
    stopped := Registers.running_setRunning_false _
    pc := Processor.pc_looping holds.roles 6 _ _ (3 * bound + 1)
    counter := (congrArg UInt64.toNat (registers 2)).trans (UInt64.toNat_ofNat_of_lt' representable)
    limit := (congrArg UInt64.toNat (registers 6)).trans bounded
    sum := (congrArg UInt64.toNat (registers 5)).trans UInt64.toNat_ofNat'
    others := fun i apart => by
      obtain ⟨address, counter, sum⟩ : i ≠ 0 ∧ i ≠ 2 ∧ i ≠ 5 := by simpa using apart
      exact (registers i).trans (by rw [if_neg sum, if_neg counter, if_neg address])
    reserved := Registers.reserved_setRunning_false _
    cycles := rfl
    fault := rfl
    stack := rfl
    roles := rfl
    memory := rfl
    devices := rfl
    memoryInstalled := rfl
    devicesInstalled := rfl }

/-- A run of the loop ends for every positive bound, and it ends with the closed form of the sum. Up to
`2 ^ 62` the count of completed instructions fits into a word. -/
theorem countingLoop_closed {blank : Memory} {bound : Nat} (room : 7 ≤ blank.size)
    (loaded : m.memory = (blank.loadProgram 0 countingLoop).2)
    (installed : m.memoryInstalled = true) (standard : m.processor.roles = .standard)
    (running : m.running = true) (entered : m.processor.pc = 3)
    (uncounted : m.processor.registers.get 2 = 0) (empty : m.processor.registers.get 5 = 0)
    (limit : (m.processor.registers.get 6).toNat = bound) (positive : 1 ≤ bound)
    (bounded : bound ≤ 2 ^ 62) (fresh : m.processor.cycles = 0) :
    ∃ ended, (∀ fuel, 3 * bound + 1 ≤ fuel →
        m.runUntilStopped fuel = some (.ok (3 * bound + 1), ended)) ∧
      Summed bound m ended ∧ ended.processor.cycles < UInt64.size := by
  have holds : HoldsLoop m := .of_loaded room loaded installed standard running
  have summed := summed_looping holds limit
  have looped := cyclesFor_loop holds limit positive
  rw [looping_self standard entered uncounted empty] at looped
  have ran := runFor_eq (3 * bound + 1) m
  rw [looped] at ran
  refine ⟨_, fun fuel enough => ?_, summed, ?_⟩
  · have settled : Settled (m.runFor (3 * bound + 1)) := by
      rw [ran]
      exact summed.stopped
    rw [((loopsAgree m).settled _ settled fuel enough).2, ran]
    simp only [tally, summed.cycles, Nat.add_sub_cancel_left]
  · rw [summed.cycles, fresh]
    have size : UInt64.size = 2 ^ 64 := rfl
    omega

/-- Eight cells, the last of which the program does not fill. -/
def eightCells : Memory := ⟨#[0, 0, 0, 0, 0, 0, 0, 9], by decide⟩

/-- A machine at the entrance of the loop with all flags set, a value in r9 and an earlier fault. -/
def atEntrance (bound : Word) : Machine 4 Memory Console where
  processor :=
    { registers :=
        { ((Registers.cleared.set Roles.standard.pc 3).set (.ofSlot 6) bound).set (.ofSlot 9) 77 with
          flags := ⟨0xffff⟩ }
      fault := some (.register 16) }
  memory := (eightCells.loadProgram 0 countingLoop).2
  devices := {}

/-- A bound for which the sum has gone around many times. -/
theorem atEntrance_summed :
    ∃ ended, (atEntrance 0x4000000000000000).runUntilStopped (3 * 2 ^ 62 + 1) =
        some (.ok (3 * 2 ^ 62 + 1), ended) ∧
      (ended.processor.registers.get 5).toNat = 2 ^ 64 - 2 ^ 61 ∧
      ended.processor.registers.get 9 = 77 ∧ ended.processor.fault = some (.register 16) ∧
      ended.memory.cells[7]? = some 9 := by
  have limit : ((atEntrance 0x4000000000000000).processor.registers.get 6).toNat = 2 ^ 62 := by
    decide
  obtain ⟨ended, ran, summed, _⟩ := countingLoop_closed (by decide) rfl rfl rfl (by decide) rfl rfl
    rfl limit (by decide) (by decide) rfl
  refine ⟨ended, ran _ (Nat.le_refl _), ?_, ?_, summed.fault, ?_⟩
  · rw [summed.sum]
    decide
  · exact summed.others 9 (by decide)
  · rw [summed.memory]
    rfl

example : ((atEntrance 10).runUntilStopped 31).map (·.2.processor.registers.get 5) = some 45 := by
  decide +kernel

end Machine

end RegisterMachine

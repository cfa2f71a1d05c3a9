import RegisterMachine.Proofs.Machine.Access

/-! # The cases of a cycle

`Machine.Cycle` lists everything that one cycle can do, one constructor for each place at which it can
end, and `cycle_of_step` says that `Machine.step` does nothing else. Later proofs take a cycle apart by
its cases and do not open `step` again.

The machine that a constructor calls `fetched` is the one after the fetch. Over flat memory it is the
machine from before the cycle (`Machine.load_flat`).
-/

namespace RegisterMachine.Machine

variable {capacity : Nat} {μ δ : Type} [MemoryBus μ] [DeviceBus δ] [StringsEnd μ δ]

/-- How a cycle from a machine can end, and with which machine. -/
inductive Cycle (m : Machine capacity μ δ) : Outcome → Machine capacity μ δ → Prop where
  | idle (stopped : m.running = false) : Cycle m .idle m
  -- The word at the program counter cannot be read.
  | unfetched {fetched : Machine capacity μ δ} {error : MemoryError} (running : m.running = true)
      (fetch : m.load m.processor.pc = (.error error, fetched)) :
      Cycle m (.faulted (.memory error)) (fetched.modifyProcessor (·.stop (.memory error)))
  -- The operation is unknown or divides by zero.
  | refused {fetched : Machine capacity μ δ} {word : Word} {error : ProgramError}
      (running : m.running = true) (fetch : m.load m.processor.pc = (.ok word, fetched))
      (request : (Instruction.ofWord word).request m.processor.registers m.processor.pc =
        .error (.fatal error)) :
      Cycle m (.fatal error) fetched
  -- An operand names no register.
  | misnamed {fetched : Machine capacity μ δ} {word : Word} {fault : Fault}
      (running : m.running = true) (fetch : m.load m.processor.pc = (.ok word, fetched))
      (request : (Instruction.ofWord word).request m.processor.registers m.processor.pc =
        .error (.fault fault)) :
      Cycle m (.faulted fault) (fetched.modifyProcessor (·.stop fault))
  -- Memory or a device fails while the request is served.
  | unserved {fetched served : Machine capacity μ δ} {word : Word} {demand : Request} {fault : Fault}
      (running : m.running = true) (fetch : m.load m.processor.pc = (.ok word, fetched))
      (request : (Instruction.ofWord word).request m.processor.registers m.processor.pc = .ok demand)
      (serve : fetched.serve demand = (.error fault, served)) :
      Cycle m (.faulted fault) (served.modifyProcessor (·.stop fault))
  | completed {fetched served : Machine capacity μ δ} {word : Word} {demand : Request}
      {effect : Effect} (running : m.running = true)
      (fetch : m.load m.processor.pc = (.ok word, fetched))
      (request : (Instruction.ofWord word).request m.processor.registers m.processor.pc = .ok demand)
      (serve : fetched.serve demand = (.ok effect, served)) :
      Cycle m (.executed (Instruction.ofWord word)) (served.modifyProcessor (·.complete effect))

theorem cycle_execute {m fetched : Machine capacity μ δ} {word : Word} (running : m.running = true)
    (fetch : m.load m.processor.pc = (.ok word, fetched)) :
    Cycle m (fetched.execute word).1 (fetched.execute word).2 := by
  -- `execute` looks at the processor behind the fetch, the constructors at the one before it.
  have seen : fetched.processor = m.processor := (surrounds_of_load fetch).processor
  unfold execute
  rw [seen]
  cases request : (Instruction.ofWord word).request m.processor.registers m.processor.pc with
  | error trap =>
    cases trap with
    | fatal error => exact .refused running fetch request
    | fault fault => exact .misnamed running fetch request
  | ok demand =>
    dsimp only
    split
    · rename_i fault served serve
      exact .unserved running fetch request serve
    · rename_i effect served serve
      exact .completed running fetch request serve

theorem cycle_step (m : Machine capacity μ δ) : Cycle m m.step.1 m.step.2 := by
  unfold step
  split
  · rename_i running
    split
    · rename_i error fetched fetch
      exact .unfetched running fetch
    · rename_i word fetched fetch
      exact cycle_execute running fetch
  · rename_i stopped
    exact .idle (Bool.eq_false_iff.2 stopped)

theorem cycle_of_step {m m' : Machine capacity μ δ} {outcome : Outcome}
    (stepped : m.step = (outcome, m')) : Cycle m outcome m' := by
  have cycle := cycle_step m
  rwa [stepped] at cycle

theorem step_flat {m : Machine capacity Memory δ} {word : Word} (running : m.running = true)
    (installed : m.memoryInstalled = true)
    (fetched : m.memory.cells[m.processor.pc.toNat]? = some word) : m.step = m.execute word := by
  have read : m.readFlat m.processor.pc = .ok word := by
    rw [readFlat, if_pos installed]
    exact Memory.read_eq_ok_iff.2 fetched
  simp only [step, running, load_flat, read, if_true]

end RegisterMachine.Machine

import RegisterMachine.Instruction.Request
import RegisterMachine.Machine.Transfer

/-! # One cycle

`Machine.step` fetches the word at the program counter, resolves it into a request, serves the request
and completes the instruction. Registers change only at completion, so whatever the host observes
during a cycle are the registers from before it.
-/

namespace RegisterMachine

inductive Outcome where
  /-- The running flag was clear and nothing happened. -/
  | idle
  /-- The instruction was completed. -/
  | executed (instruction : Instruction)
  /-- The cycle failed and the processor stopped. -/
  | faulted (fault : Fault)
  /-- The instruction makes no sense, and nothing changed. -/
  | fatal (error : ProgramError)
deriving DecidableEq, Repr

namespace Machine

variable {capacity : Nat} {μ δ : Type} [MemoryBus μ] [DeviceBus δ] [StringsEnd μ δ]

/-- Serves a request; what is left is the effect on the processor. -/
def serve (m : Machine capacity μ δ) : Request → Except Fault Effect × Machine capacity μ δ
  | .finish effect => (.ok effect, m)
  | .load target address =>
    match m.load address with
    | (.error e, m) => (.error (.memory e), m)
    | (.ok value, m) => (.ok (.assign target value), m)
  | .store address value =>
    match m.store address value with
    | (.error e, m) => (.error (.memory e), m)
    | (.ok (), m) => (.ok .advance, m)
  | .transfer descriptor pointer =>
    match m.transfer descriptor pointer with
    | (.error fault, m) => (.error fault, m)
    | (.ok (), m) => (.ok .advance, m)

def stop (m : Machine capacity μ δ) (fault : Fault) : Outcome × Machine capacity μ δ :=
  (.faulted fault, m.modifyProcessor (·.stop fault))

def execute (m : Machine capacity μ δ) (word : Word) : Outcome × Machine capacity μ δ :=
  match (Instruction.ofWord word).request m.processor.registers m.processor.pc with
  | .error (.fatal error) => (.fatal error, m)
  | .error (.fault fault) => m.stop fault
  | .ok request =>
    match m.serve request with
    | (.error fault, m) => m.stop fault
    | (.ok effect, m) =>
      (.executed (Instruction.ofWord word), m.modifyProcessor (·.complete effect))

def step (m : Machine capacity μ δ) : Outcome × Machine capacity μ δ :=
  if m.running then
    match m.load m.processor.pc with
    | (.error e, m) => m.stop (.memory e)
    | (.ok word, m) => m.execute word
  else (.idle, m)

end Machine

end RegisterMachine

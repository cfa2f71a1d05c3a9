import RegisterMachine.Device.Bus
import RegisterMachine.Memory.Bus
import RegisterMachine.Processor.Basic

/-! # The machine

A processor together with the memory and the devices of its host. Either of the two can be present
without being installed: then the processor cannot reach it, while the host still holds it.
-/

namespace RegisterMachine

structure Machine (capacity : Nat) (μ δ : Type) where
  processor : Processor capacity
  memory : μ
  devices : δ
  /-- Whether the processor can reach the memory. -/
  memoryInstalled : Bool := true
  /-- Whether the processor can reach the devices. -/
  devicesInstalled : Bool := true
deriving DecidableEq, Repr

namespace Machine

variable {capacity : Nat} {μ δ : Type}

def running (m : Machine capacity μ δ) : Bool :=
  m.processor.running

def modifyProcessor (m : Machine capacity μ δ) (f : Processor capacity → Processor capacity) :
    Machine capacity μ δ :=
  { m with processor := f m.processor }

/-- Takes memory and devices away from the processor. The processor keeps its own state. -/
def detach (m : Machine capacity μ δ) : Machine capacity μ δ :=
  { m with memoryInstalled := false, devicesInstalled := false }

/-- Lends memory and devices to the processor for the duration of an action, and takes them away
afterwards. -/
def lend {α : Type} (m : Machine capacity μ δ)
    (action : Machine capacity μ δ → α × Machine capacity μ δ) : α × Machine capacity μ δ :=
  match m with
  | ⟨processor, memory, devices, _, _⟩ =>
    match action ⟨processor, memory, devices, true, true⟩ with
    | (answer, m) => (answer, m.detach)

def load [MemoryBus μ] (m : Machine capacity μ δ) (address : Word) :
    Except MemoryError Word × Machine capacity μ δ :=
  match m with
  | ⟨processor, memory, devices, true, devicesInstalled⟩ =>
    match MemoryBus.read memory processor.registers address with
    | (result, memory) => (result, ⟨processor, memory, devices, true, devicesInstalled⟩)
  | m => (.error .notInstalled, m)

def store [MemoryBus μ] (m : Machine capacity μ δ) (address value : Word) :
    Except MemoryError Unit × Machine capacity μ δ :=
  match m with
  | ⟨processor, memory, devices, true, devicesInstalled⟩ =>
    match MemoryBus.write memory processor.registers address value with
    | (result, memory) => (result, ⟨processor, memory, devices, true, devicesInstalled⟩)
  | m => (.error .notInstalled, m)

end Machine

end RegisterMachine

import RegisterMachine.Device.Console
import RegisterMachine.Machine.Basic

/-! # The workstation

The machine that front ends put programs on: flat memory, a console, and a reserved stack of the usual
capacity. `restart` brings it to the beginning of a program, whatever happened before.
-/

namespace RegisterMachine

abbrev Stack.usualCapacity : Nat := 256

/-- A machine with flat memory and a console. -/
abbrev Workstation : Type := Machine Stack.usualCapacity Memory Console

namespace Workstation

def make (roles : Roles) (size : Word) : Workstation where
  processor := { roles }
  memory := .zeroed size
  devices := {}

/-- Clears processor, memory and console, loads a program at an address, and points the program counter
there. A program that does not fit leaves memory cleared. -/
def restart (w : Workstation) (program : List Word) (start : Word) (running : Bool) :
    Workstation :=
  { w with
    processor := (w.processor.reset.setPc start).setRunning running
    memory := (w.memory.clear.loadProgram start program).2
    devices := w.devices.clear }

def pushInput (w : Workstation) (bytes : List UInt8) : Workstation :=
  { w with devices := w.devices.pushInput bytes }

def takeOutput (w : Workstation) : List UInt8 × Workstation :=
  match w with
  | ⟨processor, memory, devices, memoryInstalled, devicesInstalled⟩ =>
    match devices.takeOutput with
    | (bytes, devices) => (bytes, ⟨processor, memory, devices, memoryInstalled, devicesInstalled⟩)

end Workstation

end RegisterMachine

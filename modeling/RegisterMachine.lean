import RegisterMachine.Debugger.Screen
import RegisterMachine.Device.Table
import RegisterMachine.Inspection
import RegisterMachine.Main
import RegisterMachine.Memory.Monitored
import RegisterMachine.Playground
import RegisterMachine.Proofs.Instruction.Operands
import RegisterMachine.Proofs.Machine.ProgramErrors
import RegisterMachine.Proofs.Machine.Service
import RegisterMachine.Proofs.Processor.Update
import RegisterMachine.Proofs.Machine.Classification
import RegisterMachine.Proofs.Machine.Completion
import RegisterMachine.Proofs.Machine.Containment
import RegisterMachine.Proofs.CommandLine.Tracing
import RegisterMachine.Proofs.Debugger.Mirror
import RegisterMachine.Proofs.Debugger.Continuous
import RegisterMachine.Proofs.Device.Table
import RegisterMachine.Proofs.Device.Bindings
import RegisterMachine.Proofs.Machine.Sending
import RegisterMachine.Proofs.Machine.HostView
import RegisterMachine.Proofs.Host.Configuration
import RegisterMachine.Proofs.Host.File
import RegisterMachine.Proofs.Image.Binary
import RegisterMachine.Proofs.Image.File
import RegisterMachine.Proofs.Host.Document
import RegisterMachine.Proofs.Debugger.Reset
import RegisterMachine.Proofs.Debugger.Output
import RegisterMachine.Proofs.Playground.Calls
import RegisterMachine.Proofs.Playground.Agreement
import RegisterMachine.Proofs.Machine.Reserve
import RegisterMachine.Proofs.Image.Lines
import RegisterMachine.Proofs.Machine.Conservation
import RegisterMachine.Proofs.Image.Sources
import RegisterMachine.Proofs.CommandLine.Override
import RegisterMachine.Proofs.Machine.Disassembly
import RegisterMachine.Proofs.Debugger.Window
import RegisterMachine.Proofs.Processor.Stack
import RegisterMachine.Proofs.Machine.CountingLoop
import RegisterMachine.Proofs.Host.SpecialRegisters

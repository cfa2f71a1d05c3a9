import RegisterMachine.Debugger.Pane
import RegisterMachine.Debugger.Session
import RegisterMachine.Text.Wrap

/-! # The debugger's screen

Six panes in two columns. On the left the disassembly around the program counter, the registers and the
status line; on the right the memory, the program's output and a summary of the keys. The left column
takes three fifths of the width. The upper pane of each column takes the height that the others leave.
-/

namespace RegisterMachine.Debugger

open Text

namespace Session

/-! ## Panes of a session -/

/-- The look of what belongs to the program counter. -/
def currentStyle : Style := { colour := .yellow, bold := true }

def disassemblyPane (s : Session) (rows : Nat) : Pane where
  title := "Disassembly"
  colour := .cyan
  lines := (s.window rows).map fun row =>
    let marked := s.breakpoints.contains row.address
    let style : Style :=
      if row.current then currentStyle
      else if marked then { colour := .red }
      else if row.text.startsWith "???" then { colour := .darkGray }
      else {}
    .uniform ((if marked then "●" else " ") ++ " " ++ (if row.current then "▶ " else "  ") ++
      listingAddress row.address.toNat ++ ": " ++ row.text) style

def registerCells (s : Session) (index : RegisterIndex) : Row :=
  let p := s.machine.processor
  let value := p.registers.get index
  let colour : Colour :=
    if index = p.roles.pc then .yellow
    else if index = p.roles.sp then .cyan
    else if value ≠ 0 then .white
    else .darkGray
  .ofText ("r" ++ padRight 2 (decimal index.val) ++ " " ++ padLeft 12 ' ' (hex value.toNat) ++ "  ")
    { colour }

def counterCells (s : Session) : Row :=
  let p := s.machine.processor
  .ofText "Flags: " {} ++
    .ofText p.registers.flags.render { colour := if p.running then .green else .red } ++
    .ofText "Cycles: " {} ++ .ofText (decimal p.cycles) { colour := .cyan } ++
    .ofText ("   Stack: " ++ decimal p.stack.size) {}

def registerPane (s : Session) : Pane where
  title := "Registers"
  colour := .green
  lines :=
    (RegisterIndex.rows.map fun row => { content := row.flatMap s.registerCells }) ++
      [{ content := s.counterCells }]

def statusPane (s : Session) : Pane :=
  let failed := s.fatal.isSome || s.machine.processor.fault.isSome
  let style : Style := { colour := if failed then .red else .white }
  { title := "Status", colour := .gray, lines := [.uniform s.status.message style], rest := style }

def memoryPane (s : Session) (rows : Nat) : Pane where
  title := "Memory (" ++ decimal s.machine.memory.size ++ " words)"
  colour := .magenta
  lines := (s.machine.memory.dump s.scroll rows).map fun (address, value) =>
    let style : Style :=
      if address = s.machine.processor.pc.toNat then currentStyle
      else if address = s.machine.processor.sp.toNat then { colour := .cyan }
      else if value ≠ 0 then { colour := .white }
      else { colour := .darkGray }
    .uniform (listingAddress address ++ ": " ++ hexWord value) style

def outputPane (s : Session) (width : Nat) : Pane where
  title := "Output"
  colour := .blue
  lines := (wrap width s.output.toList).map fun written => { written }

end Session

/-! ## The whole screen -/

def helpPane : Pane :=
  let style : Style := { colour := .darkGray }
  { title := "Help"
    colour := .gray
    lines :=
      [.uniform "s: Step  r: Run  p: Pause  b: Breakpoint" style,
       .uniform "x: Reset  ↑↓: Scroll memory  q: Quit" style]
    rest := style }

/-- The height of the panes below the upper one of each column, together. -/
def lowerHeight : Nat := 11

/-- The width of the left column: three fifths, to the nearest column. -/
def leftWidth (width : Nat) : Nat :=
  (width * 60 + 50) / 100

def Session.screen (s : Session) (width height : Nat) : List Row :=
  let left := leftWidth width
  let right := width - left
  let upper := height - lowerHeight
  let leftColumn :=
    (s.disassemblyPane (upper - 2)).render left upper ++ s.registerPane.render left 8 ++
      s.statusPane.render left 3
  let rightColumn :=
    (s.memoryPane (upper - 2)).render right upper ++ (s.outputPane (right - 2)).render right 7 ++
      helpPane.render right 4
  hideCovered (.blank {}) (List.zipWith (· ++ ·) leftColumn rightColumn)

end RegisterMachine.Debugger

import RegisterMachine.Text.Blank
import RegisterMachine.Text.Cluster.Width

/-! # Panes

A screen is a grid of cells, each with a cluster of characters, a colour and a weight. It is put together
from panes with a border and a title, side by side and one below the other. Rows that are too long for
their pane are cut, and rows that are too short are filled up. A cluster that takes several columns stands
in the first of them.
-/

namespace RegisterMachine.Debugger

open Text (Cluster clusters trimEnd)

/-! ## Cells -/

/-- The colours of the screen. The plain one is whatever the terminal writes in. -/
inductive Colour where
  | plain
  | cyan
  | yellow
  | white
  | darkGray
  | red
  | green
  | magenta
  | blue
  | gray
deriving DecidableEq, Repr

structure Style where
  colour : Colour := .plain
  bold : Bool := false
deriving DecidableEq, Repr

structure Cell where
  symbol : Cluster
  style : Style
deriving DecidableEq, Repr

def Cell.blank (style : Style) : Cell where
  symbol := [' ']
  style := style

/-! ## Rows -/

abbrev Row : Type := List Cell

namespace Row

/-- A text in one style. Each cluster takes as many cells as it is wide, and those without a width are
left out. -/
def ofText (text : String) (style : Style) : Row :=
  (clusters text.toList).flatMap fun symbol =>
    match symbol.width with
    | 0 => []
    | more + 1 => Cell.mk symbol style :: List.replicate more (Cell.blank style)

/-- A row of a given length: what is too long is cut, what is too short is filled with spaces. -/
def fit (width : Nat) (fill : Style) (row : Row) : Row :=
  (row ++ List.replicate (width - row.length) (Cell.blank fill)).take width

/-- The characters of a row, without the blanks at its end. -/
def text (row : Row) : String :=
  String.ofList (trimEnd (row.flatMap (·.symbol)))

/-- Writes clusters over a row. Each replaces what stands in the cell where it starts, which keeps its
style; the other columns of a wide cluster stay as they are, and clusters without a width are left out. -/
def overwrite : Row → List Cluster → Row
  | row, [] => row
  | [], _ => []
  | cell :: rest, symbol :: more =>
    match symbol.width with
    | 0 => overwrite (cell :: rest) more
    | covered + 1 =>
      { cell with symbol } :: rest.take covered ++ overwrite (rest.drop covered) more

/-- The styles along a row, each with the number of cells for which it lasts. -/
def runs : Row → List (Nat × Style)
  | [] => []
  | cell :: rest =>
    match runs rest with
    | (count, style) :: others =>
      if cell.style = style then (count + 1, style) :: others
      else (1, cell.style) :: (count, style) :: others
    | [] => [(1, cell.style)]

end Row

/-- What a terminal shows of rows, behind a given cell: a wide cluster hides the cell behind it, even if
that is the first one of the next row. -/
def hideCovered (before : Cell) : List Row → List Row
  | [] => []
  | row :: rest =>
    List.zipWith (fun before cell => if 1 < before.symbol.width then Cell.blank {} else cell)
      (before :: row) row :: hideCovered (row.getLastD before) rest

/-! ## Panes -/

/-- What a pane shows in a row, and the style of the rest of the row. -/
structure PaneLine where
  content : Row := []
  fill : Style := {}
  /-- What is written over all these cells. It is not cut at the end of the row and can reach the
  border. -/
  written : List Cluster := []
deriving DecidableEq, Repr

def PaneLine.uniform (text : String) (style : Style) : PaneLine where
  content := .ofText text style
  fill := style

structure Pane where
  title : String
  colour : Colour
  lines : List PaneLine
  rest : Style := {}
deriving DecidableEq, Repr

namespace Pane

def render (width height : Nat) (pane : Pane) : List Row :=
  let style : Style := { colour := pane.colour }
  let inner := width - 2
  let edge (left fill right : Char) (text : String) : Row :=
    let body := text.toList ++ List.replicate (inner - text.length) fill
    .ofText (String.ofList (left :: body.take inner ++ [right])) style
  let side : Row := .ofText "│" style
  let blank : PaneLine := { content := [], fill := pane.rest }
  let lines := (pane.lines ++ List.replicate (height - 2 - pane.lines.length) blank).take (height - 2)
  edge '┌' '─' '┐' (" " ++ pane.title ++ " ") ::
    lines.map (fun line => side ++ Row.overwrite (line.content.fit inner line.fill ++ side) line.written) ++
    [edge '└' '─' '┘' ""]

end Pane

end RegisterMachine.Debugger

import RegisterMachine.Text.Blank
import RegisterMachine.Text.Cluster.Width

/-! # Word wrap

How a text is broken into lines of a given width. A line that is too wide is broken at blanks, and a
word that is too wide by itself is broken wherever it has to be, though never inside a cluster. Blanks
are kept, except for those that would hang over the end of a line.
-/

namespace RegisterMachine.Text

/-! ## Lines and breaks -/

/-- The lines of a text as they are shown: a carriage return before a line feed belongs to it, and a
line feed at the end starts no further line. -/
def shownLines (text : List Char) : List (List Char) :=
  let all := lines text
  let last := all.getLast?.getD []
  (all.dropLast.map fun line =>
    if line.getLast? = some '\r' then line.dropLast else line) ++ if last.isEmpty then [] else [last]

/-- Whether a line may be broken at a cluster: at every blank but the one made to prevent it, and at the
blank without a width. -/
def Cluster.isBreak (cluster : Cluster) : Bool :=
  cluster == [Char.ofNat 0x200b] || (cluster.all isBlank && cluster != [Char.ofNat 0xa0])

def dropFitting (room : Nat) : List Cluster → List Cluster
  | [] => []
  | cluster :: rest =>
    if cluster.width ≤ room then dropFitting (room - cluster.width) rest else cluster :: rest

/-! ## One line at a time -/

structure Wrap where
  /-- The lines that are complete, the last one first. -/
  finished : List (List Cluster) := []
  /-- The words and blanks that belong to the current line. -/
  line : List Cluster := []
  blanks : List Cluster := []
  /-- The word behind the blanks, to which more may come. -/
  word : List Cluster := []
  afterWord : Bool := false
deriving DecidableEq, Repr

namespace Wrap

def settle (w : Wrap) : Wrap :=
  { w with line := w.line ++ w.blanks ++ w.word, blanks := [], word := [] }

def put (w : Wrap) (c : Cluster) : Wrap :=
  if c.isBreak then { w with blanks := w.blanks ++ [c], afterWord := false }
  else { w with word := w.word ++ [c], afterWord := true }

def pendingWidth (w : Wrap) : Nat :=
  totalWidth w.blanks + totalWidth w.word

/-- Whether the current line has no room for a further cluster. A cluster without a width finds room
behind the pending word. -/
def isFull (width : Nat) (w : Wrap) (c : Cluster) : Bool :=
  width ≤ totalWidth w.line || (0 < c.width && width ≤ totalWidth w.line + w.pendingWidth)

/-- Takes one more cluster, and first completes the current line if that is full. A cluster that is
wider than a whole line is left out. -/
def step (width : Nat) (w : Wrap) (c : Cluster) : Wrap :=
  if width < c.width then w
  else
    let overflows := w.line.isEmpty && width < w.pendingWidth + c.width
    let w := if (w.afterWord && c.isBreak) || overflows then w.settle else w
    if w.isFull width c then
      let blanks := dropFitting (width - totalWidth w.line) w.blanks
      let w := { w with finished := w.line :: w.finished, line := [], blanks }
      if c.isBreak && blanks.isEmpty then w else w.put c
    else w.put c

/-- The lines when there are no more clusters. Blanks alone come behind an empty line. -/
def finish (w : Wrap) : List (List Cluster) :=
  let lone := w.line.isEmpty && w.word.isEmpty && !w.blanks.isEmpty
  let finished := if lone then [] :: w.finished else w.finished
  match w.settle.line, finished with
  | [], [] => [[]]
  | [], finished => finished.reverse
  | line, finished => (line :: finished).reverse

end Wrap

/-! ## Texts -/

def wrapLine (width : Nat) (line : List Char) : List (List Cluster) :=
  if width = 0 then [[]] else ((clusters line).foldl (Wrap.step width) {}).finish

def wrap (width : Nat) (text : List Char) : List (List Cluster) :=
  (shownLines text).flatMap (wrapLine width)

end RegisterMachine.Text

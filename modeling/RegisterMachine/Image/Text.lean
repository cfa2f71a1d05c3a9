import RegisterMachine.Image.Basic
import RegisterMachine.Image.Error
import RegisterMachine.Instruction.Disassembly
import RegisterMachine.Text.Blank

/-! # Text images

One word a line, in decimal or behind `0x` in hexadecimal, with underscores wherever they help. A
semicolon starts a comment, and lines without code are skipped. The first line that is not a word
decides the error.

A rendered image has the disassembly of each word as a comment.
-/

namespace RegisterMachine.Image

open Text

/-- Reads the number in a line's code. Underscores do not count, and `0x` marks hexadecimal. -/
def readNumber (code : List Char) : Except IntegerError Word :=
  match code.filter (· != '_') with
  | '0' :: 'x' :: digits => readWord 16 digits
  | '0' :: 'X' :: digits => readWord 16 digits
  | digits => readWord 10 digits

/-- Reads the word in a line's code, which is not empty and has no blanks around it. -/
def readCode (code : List Char) : Except LineError Word :=
  if code.any isBlank then .error (.severalWords (String.ofList code))
  else
    match readNumber code with
    | .ok word => .ok word
    | .error e => .error (.badNumber (String.ofList code) e)

/-- The code of a line: what stands before a comment, without blanks around it. -/
def lineCode (line : List Char) : List Char :=
  trim (line.takeWhile (· != ';'))

/-- Reads a line. A line without code has no entry. -/
def parseLine (line : List Char) : Except LineError (Option ImageEntry) :=
  match lineCode line with
  | [] => .ok none
  | code =>
    match readCode code with
    | .ok word => .ok (some { word, source := String.ofList (trim line) })
    | .error e => .error e

/-- Reads lines, of which the first has the given number. -/
def parseLines : Nat → List (List Char) → Except ImageError (List ImageEntry)
  | _, [] => .ok []
  | number, line :: rest =>
    match parseLine line with
    | .error e => .error (.line number e)
    | .ok entry =>
      match parseLines (number + 1) rest with
      | .error e => .error e
      | .ok entries => .ok (entry.toList ++ entries)

def parse (text : String) : Except ImageError Image :=
  (parseLines 1 (lines text.toList)).map Image.mk

/-- One line of a rendered image: the word, and as a comment its address and its disassembly. -/
def renderLine (address : Nat) (word : Word) : String :=
  hexWord word ++ " ; " ++ listingAddress address ++ " " ++ disassemble word ++ "\n"

def render (image : Image) : String :=
  "; regvm program image\n; " ++ decimal image.size ++ " words\n\n" ++
    String.join (image.words.mapIdx renderLine)

end RegisterMachine.Image

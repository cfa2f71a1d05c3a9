import RegisterMachine.Host.File
import RegisterMachine.Text.Integer
import RegisterMachine.Text.Numeral

/-! # What can be wrong with an image

An image can be unreadable as a file, have a line that is not a word, or have a length that is not a
whole number of words.
-/

namespace RegisterMachine

inductive LineError where
  /-- There are blanks inside the code. -/
  | severalWords (code : String)
  | badNumber (code : String) (error : Text.IntegerError)
deriving DecidableEq, Repr

def LineError.message : LineError → String
  | .severalWords code => "expected one word per line, found `" ++ code ++ "`"
  | .badNumber code error => "invalid word `" ++ code ++ "`: " ++ error.message

inductive ImageError where
  | file (error : FileError)
  /-- A line of a text image is not a word; lines count from 1. -/
  | line (number : Nat) (error : LineError)
  /-- The length of a binary image is not a whole number of words. -/
  | truncated (length : Nat)
deriving DecidableEq, Repr

def ImageError.message : ImageError → String
  | .file error => "I/O error: " ++ error.message
  | .line number error => "parse error on line " ++ Text.decimal number ++ ": " ++ error.message
  | .truncated length =>
    "binary image length " ++ Text.decimal length ++ " is not a multiple of 8 bytes"

end RegisterMachine

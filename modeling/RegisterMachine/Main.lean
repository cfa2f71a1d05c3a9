import RegisterMachine.CommandLine.Perform
import Std.Time.DateTime.Timestamp

/-! # The command

The outer layer: it reads the files that a request needs and the standard input, asks for the report,
and says what is in it.
-/

namespace RegisterMachine.CommandLine

/-- Whether a code is the system's error with the given number, which some calls report negated. -/
def isSystemError (number code : UInt32) : Bool :=
  code == number || code == 0 - number

def fileError : IO.Error → FileError
  | .noFileOrDirectory .. => .notFound
  | .inappropriateType _ code _ => if isSystemError 20 code then .notDirectory else .isDirectory
  | .invalidArgument (some path) code details =>
    if isSystemError 36 code then .nameTooLong
    else .other (toString (IO.Error.invalidArgument (some path) code details))
  | e => .other (toString e)

def readFile (path : String) : IO (Except FileError (List UInt8)) := do
  try
    return .ok (← IO.FS.readBinFile path).data.toList
  catch e =>
    return .error (fileError e)

def currentTime : IO String := do
  let now ← Std.Time.Timestamp.now
  return Log.timeOfDay now.toMillisecondsSinceUnixEpoch.toInt.toNat

def emit (logging : Logging) (emission : Emission) : IO Unit := do
  let output ← IO.getStdout
  output.write ⟨emission.outputBytes.toArray⟩
  output.flush
  (← IO.getStderr).putStr (emission.errorText logging (← currentTime))

def run (arguments : List String) : IO UInt32 := do
  let request := Request.ofArguments arguments
  let contents ← request.paths.mapM fun path => do return (path, ← readFile path)
  let read : FileReader := fun path => (contents.lookup path).getD (.error .notFound)
  let input ← if request.readsInput then (← IO.getStdin).readBinToEnd else pure .empty
  let coloured := Log.wantsColour (← IO.getEnv "TERM") (← IO.getEnv "NO_COLOR").isSome
  match request.respond Machine.ampleFuel read input.data.toList with
  | none => return 1
  | some report =>
    report.emissions.forM (emit (request.logging coloured))
    return report.exitCode

end RegisterMachine.CommandLine

def main (arguments : List String) : IO UInt32 :=
  RegisterMachine.CommandLine.run arguments

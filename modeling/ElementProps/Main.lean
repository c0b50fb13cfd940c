import ElementProps.CommandLine.Outcome
import Std.Time.DateTime.Timestamp

/-!
# The program

Reads the arguments, the files that they name and the clock, and writes the outcome. The transport
of a server is the host's to run: an outcome only names it.
-/

namespace ElementProps.CommandLine

def Command.files : Command → List Path
  | .serve _ => []
  | .complete file _ _ props => Path.ofString file :: props.toList.map Path.ofString

/-- an error has this number; it may be given with either sign -/
def hasCode (e : ReadError) (code : UInt32) : Bool :=
  code == e.code.toUInt32 || 0 - code == e.code.toUInt32

def readErrorOf : IO.Error → ReadError
  | .inappropriateType _ code _ => if hasCode .isDirectory code then .isDirectory else .notDirectory
  | .invalidArgument _ code _ => if hasCode .nameTooLong code then .nameTooLong else .missing
  | _ => .missing

/-- the bytes of a file, or why they cannot be read -/
def readBytes (p : Path) : IO (Except ReadError (List UInt8)) := do
  try
    let bytes ← IO.FS.readBinFile p.text
    return .ok bytes.toList
  catch e => return .error (readErrorOf e)

def now : IO Log.Moment := do
  let millis := (← Std.Time.Timestamp.now).toMillisecondsSinceUnixEpoch.val
  return ⟨millis / 1000, millis % 1000⟩

/-- how deep JSON values may be nested in a program that has just started -/
def stackRoom : Nat := 992

/-- writes an outcome and gives the status of the program -/
def Outcome.emit : Outcome → IO UInt32
  | .done status stdout stderr _ => do
    (← IO.getStderr).putStr stderr
    (← IO.getStdout).putStr stdout
    return status.toUInt32
  | .crashed c => do
    (← IO.getStderr).putStrLn c.message
    return 1

end ElementProps.CommandLine

open ElementProps ElementProps.CommandLine in
def main (args : List String) : IO UInt32 := do
  match Invocation.parse args with
  | .error stop => stop.outcome.emit
  | .ok i =>
    let contents ← i.command.files.mapM fun p => do return (p, ← readBytes p)
    let terminal : Terminal := ⟨← (← IO.getStderr).isTty, (← now).text⟩
    (i.outcome terminal stackRoom fun p => (contents.lookup p).getD (.error .missing)).emit

import ElementProps.CommandLine.Invocation
import ElementProps.Completer
import ElementProps.FileTree
import ElementProps.Json.Reader
import ElementProps.Log.Render
import ElementProps.Settings
import ElementProps.Text.Utf8

/-!
# What the program does

The outcome of a run depends on the arguments, on what reading files gives and on `room`, the depth
that the host's stack leaves for nested JSON values. Everything else is left to the outer layer: the
text of the clock, the choice of colours, and the transport itself.

* `readText`           the text of a file, with its line breaks unified;
* `readProperties`     the property map of a JSON file, with the warnings;
* `completeFile`       the completions at a line and column of a file, with the reports;
* `Outcome`            what is written, the status and the transport that is started, or a crash;
* `run`                the outcome of a run.
-/

namespace ElementProps.CommandLine

/-! ## files -/

abbrev FileReader := Path → Except ReadError (List UInt8)

/-- a failure that is reported to the user -/
inductive Report where
  | unreadable (p : Path) (e : ReadError)
  | invalidJson (p : Path) (message : String)
  deriving DecidableEq, Repr

def Report.message : Report → String
  | .unreadable p e => "Error reading " ++ p.text ++ ": " ++ e.message p
  | .invalidJson p message => "Error: Invalid JSON in " ++ p.text ++ ": " ++ message

/-- a failure that nothing catches -/
inductive Crash where
  /-- a file is not UTF-8 -/
  | undecodable (d : Text.Utf8.Defect)
  /-- a file name holds a NUL character -/
  | embeddedNul
  /-- a whole number in a JSON file has too many digits -/
  | numeralTooLong (message : String)
  /-- the values of a JSON file are nested too deep -/
  | nestedTooDeep (message : String)
  /-- the level of reports is withheld -/
  | levelWithheld
  /-- the line or the column is withheld -/
  | positionWithheld
  deriving DecidableEq, Repr

def Crash.message : Crash → String
  | .undecodable d => d.message
  | .embeddedNul => "embedded null byte"
  | .numeralTooLong message => message
  | .nestedTooDeep message => message
  | .levelWithheld => "attribute name must be string, not 'list'"
  | .positionWithheld => "unsupported operand type(s) for -: 'list' and 'int'"

inductive Failure where
  | reported (r : Report)
  | crash (c : Crash)

def readText (read : FileReader) (p : Path) : Except Failure Text :=
  if p.text.toList.contains '\x00' then .error (.crash .embeddedNul)
  else match read p with
    | .error e => .error (.reported (.unreadable p e))
    | .ok bytes =>
      match Text.Utf8.decode bytes with
      | .error d => .error (.crash (.undecodable d))
      | .ok t => .ok (unifyBreaks t)

/-- the failure for a JSON file with the text `t`; only malformed text is reported -/
def jsonFailure (p : Path) (t : Text) (fault : Json.Fault) : Failure :=
  match fault with
  | .malformed _ _ => .reported (.invalidJson p (fault.message t))
  | .numeralTooLong _ => .crash (.numeralTooLong (fault.message t))
  | .nestedTooDeep _ => .crash (.nestedTooDeep (fault.message t))

def readProperties (room : Nat) (read : FileReader) (p : Path) :
    Except Failure (Option PropertyMap × List Warning) :=
  match readText read p with
  | .error f => .error f
  | .ok t =>
    match Json.read room t with
    | .ok v => .ok (PropertyMap.ofJson v)
    | .error fault => .error (jsonFailure p t fault)

/-- the property map of the file that is named, if one is; an empty name is none -/
def userMap (room : Nat) (read : FileReader) :
    Option String → Except Failure (Option PropertyMap × List Warning)
  | none => .ok (none, [])
  | some name =>
    if name.isEmpty then .ok (none, []) else readProperties room read (.ofString name)

/-! ## the command `complete` -/

/-- The completions at a one-based line and column of a file, with the reports. The file is read
before the properties are, and both before the position is needed. -/
def completeFile (room : Nat) (read : FileReader) (file : String) (line column : Option Int)
    (props : Option String) : Except Failure (List Completion × List Log.Record) := do
  let t ← readText read (.ofString file)
  let (user, warnings) ← userMap room read props
  match line, column with
  | some line, some column =>
    let found := ({} : Completer).findAt user t (line - 1) (column - 1)
    return (found.completions, warnings.map Warning.record ++ found.log)
  | _, _ => .error (.crash .positionWithheld)

def completionLine (c : Completion) : String := c.label ++ "\t" ++ c.detail ++ "\n"

/-! ## outcomes -/

inductive Outcome where
  /-- with a status; a transport that is named is the last thing started -/
  | done (status : Nat) (stdout stderr : String) (started : Option Transport)
  | crashed (c : Crash)
  deriving DecidableEq, Repr

structure Terminal where
  /-- the level part is coloured -/
  colored : Bool
  /-- the text of the clock -/
  time : String

/-- the lines of the reports that reach a level -/
def logLines (terminal : Terminal) (level : Log.Level) (log : List Log.Record) : String :=
  String.join ((log.filter fun r => decide (level.rank ≤ r.level.rank)).map fun r =>
    r.render terminal.colored terminal.time ++ "\n")

/-- the outcome when the arguments already end the run -/
def Stop.outcome : Stop → Outcome
  | .help topic => .done 0 topic.help "" none
  | .version => .done 0 (programName ++ " " ++ programVersion ++ "\n") "" none
  | .misuse topic m =>
    .done 2 "" (topic.usage ++ topic.caller ++ ": error: " ++ m.message ++ "\n") none
  | .levelWithheld => .crashed .levelWithheld

/-- the text of a port; one that is withheld is an empty list -/
def portText : Option Int → String
  | some port => toString port
  | none => "[]"

def startReport (t : Transport) : Log.Record :=
  .info .commandLine ("Starting Luau Props LSP server (" ++ programVersion ++ ") on "
    ++ match t with
      | .stdio => "stdio"
      | .tcp port => "TCP port " ++ portText port)

def Invocation.outcome (terminal : Terminal) (room : Nat) (read : FileReader) (i : Invocation) :
    Outcome :=
  match i.command with
  | .serve t => .done 0 "" (logLines terminal i.level [startReport t]) (some t)
  | .complete file line column props =>
    match completeFile room read file line column props with
    | .error (.crash c) => .crashed c
    | .error (.reported r) => .done 1 "" (r.message ++ "\n") none
    | .ok (completions, log) =>
      .done 0 (String.join (completions.map completionLine)) (logLines terminal i.level log) none

def run (terminal : Terminal) (room : Nat) (read : FileReader) (args : List String) : Outcome :=
  match Invocation.parse args with
  | .error stop => stop.outcome
  | .ok i => i.outcome terminal room read

end ElementProps.CommandLine

import ElementProps.CommandLine.Grammar
import ElementProps.CommandLine.Help
import ElementProps.Log.Basic
import ElementProps.Text.Numeral

/-!
# Invocations

What the arguments ask the program to do, or why reading them ended before that.

* `Invocation`         a command and the level of reports;
* `Stop`               help, the version, a misuse or a level that is withheld;
* `Invocation.parse`   the invocation that the arguments stand for.

Events are taken in order, so the first fault counts; arguments that no command takes are
reported only when all else is in order.
-/

namespace ElementProps.CommandLine

/-- why reading the arguments ended early -/
inductive Stop where
  | help (topic : Topic)
  | version
  | misuse (topic : Topic) (m : Misuse)
  /-- the level of reports is given without a value -/
  | levelWithheld

inductive Transport where
  | stdio
  /-- by a port, unless its number is withheld -/
  | tcp (port : Option Int)
  deriving DecidableEq, Repr

inductive Command where
  | serve (transport : Transport)
  /-- print the completions at a one-based line and column of a file; either may be withheld -/
  | complete (file : String) (line column : Option Int) (props : Option String)
  deriving DecidableEq, Repr

/-- a command and the least level of the reports that are written -/
structure Invocation where
  level : Log.Level
  command : Command
  deriving DecidableEq, Repr

/-- the value of an option that takes a whole number; one that is withheld stays so -/
def intValue (topic : Topic) (option : String) : Option String → Except Stop (Option Int)
  | none => .ok none
  | some value =>
    match Text.int? value.toList with
    | some n => .ok (some n)
    | none => .error (.misuse topic (.notAnInt option value))

/-- the state after the events of a scan, unless one of them or its misuse stops reading -/
def runScan {κ σ : Type} (topic : Topic) (take : σ → Event κ → Except Stop σ) (start : σ)
    (s : Scan κ) : Except Stop σ := do
  let state ← s.events.foldlM take start
  match s.misuse with
  | some m => .error (.misuse topic m)
  | none => .ok state

/-! ## the command `server` -/

namespace Serve

inductive Key where
  | help
  | tcp
  | port
  | stdio
  deriving DecidableEq, Repr

def grammar : Grammar Key where
  options := [.switch .help "--help" (some 'h'), .switch .tcp "--tcp" none, .valued .port "--port",
    .switch .stdio "--stdio" none]
  operand := .none

structure State where
  tcp : Bool := false
  port : Option Int := some 8080
  stdio : Bool := false
  extras : List String := []

def take (s : State) : Event Key → Except Stop State
  | .switch .tcp => .ok { s with tcp := true }
  | .switch .stdio => .ok { s with stdio := true }
  | .switch _ => .error (.help .server)
  | .value _ option v => do return { s with port := ← intValue .server option v }
  | .operand args => .ok { s with extras := s.extras ++ args }
  | .extra a => .ok { s with extras := s.extras ++ [a] }

def parse (args : List String) : Except Stop State :=
  runScan .server take {} (grammar.scan args)

/-- the command that the arguments stand for; the two transports exclude each other -/
def State.command (s : State) : Except Stop Command :=
  if s.tcp && s.stdio then .error (.misuse .program .tcpAndStdio)
  else .ok (.serve (if s.tcp then .tcp s.port else .stdio))

end Serve

/-! ## the command `complete` -/

namespace Complete

inductive Key where
  | help
  | line
  | column
  | props
  deriving DecidableEq, Repr

def grammar : Grammar Key where
  options := [.switch .help "--help" (some 'h'), .valued .line "--line",
    .valued .column "--column", .valued .props "--props"]
  operand := .one

structure State where
  file : Option String := none
  /-- the line, if it is given; it may be given without a value -/
  line : Option (Option Int) := none
  /-- the column, in the same way -/
  column : Option (Option Int) := none
  props : Option String := none
  extras : List String := []

def take (s : State) : Event Key → Except Stop State
  | .switch _ => .error (.help .complete)
  | .value .line option v => do return { s with line := some (← intValue .complete option v) }
  | .value .column option v => do return { s with column := some (← intValue .complete option v) }
  | .value _ _ v => .ok { s with props := v }
  | .operand args => .ok { s with file := args.head? }
  | .extra a => .ok { s with extras := s.extras ++ [a] }

def State.missing (s : State) : List String :=
  (if s.file.isNone then ["file"] else []) ++ (if s.line.isNone then ["--line"] else [])
    ++ (if s.column.isNone then ["--column"] else [])

/-- the command that the arguments stand for, and the arguments left over -/
def parse (args : List String) : Except Stop (Command × List String) := do
  let s ← runScan .complete take {} (grammar.scan args)
  match s.file, s.line, s.column with
  | some file, some line, some column => .ok (.complete file line column s.props, s.extras)
  | _, _, _ => .error (.misuse .complete (.required s.missing))

end Complete

/-! ## the program -/

namespace Program

inductive Key where
  | help
  | version
  | logLevel
  deriving DecidableEq, Repr

def grammar : Grammar Key where
  options := [.switch .help "--help" (some 'h'), .switch .version "--version" none,
    .valued .logLevel "--log-level"]
  operand := .command

/-- a command whose own arguments are read; whether its transports agree is not yet asked -/
inductive Chosen where
  | server (s : Serve.State)
  | complete (c : Command)

structure State where
  /-- the level of reports, unless it is withheld -/
  level : Option Log.Level := some .info
  chosen : Option Chosen := none
  /-- the arguments left over by the program, and then those left over by the command -/
  extras : List String := []

def commands : List String := ["server", "complete"]

def choose (name : String) (args : List String) : Except Stop (Chosen × List String) :=
  if name = "server" then do
    let s ← Serve.parse args
    return (.server s, s.extras)
  else if name = "complete" then do
    let (c, extras) ← Complete.parse args
    return (.complete c, extras)
  else .error (.misuse .program (.notAChoice "command" name commands))

/-- what one event says; the command is read as soon as it is met -/
def take (s : State) : Event Key → Except Stop State
  | .switch .version => .error .version
  | .switch _ => .error (.help .program)
  | .value _ _ none => .ok { s with level := none }
  | .value _ option (some v) =>
    match Log.Level.ofName? v with
    | some level => .ok { s with level := some level }
    | none => .error (.misuse .program (.notAChoice option v (Log.Level.named.map Prod.fst)))
  | .operand args => do
    let (chosen, extras) ← choose (args.headD "") args.tail
    return { s with chosen := some chosen, extras := s.extras ++ extras }
  | .extra a => .ok { s with extras := s.extras ++ [a] }

end Program

/-- The invocation that the arguments stand for. A withheld level is noticed once a command is
there, and before the transports of a server are compared. -/
def Invocation.parse (args : List String) : Except Stop Invocation := do
  let s ← runScan .program Program.take {} (Program.grammar.scan args)
  if !s.extras.isEmpty then .error (.misuse .program (.unrecognized s.extras))
  else match s.chosen, s.level with
    | none, _ => .error (.misuse .program .noCommand)
    | some _, none => .error .levelWithheld
    | some (.complete command), some level => return ⟨level, command⟩
    | some (.server server), some level => return ⟨level, ← server.command⟩

end ElementProps.CommandLine

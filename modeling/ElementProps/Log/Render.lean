import ElementProps.Log.Basic
import ElementProps.Log.Timestamp
import ElementProps.Text.Basic
import ElementProps.Text.Quoted

/-!
# Log lines

A record is written as `[L TIME NAME] message`, with the letter of its level, a timestamp and the
short name of its logger. On a terminal the part in brackets is coloured by level.

* `Record.render`         the line of a record;
* `Entry.line`            the lines of what a part of the program hands over to be written;
* `fillTemplate`          a message with its arguments in place;
* `Failure.text`          the text of a failure that is written under a record.
-/

namespace ElementProps.Log

/-! ## messages with arguments -/

inductive FillError where
  | tooFew
  | tooMany
  deriving DecidableEq, Repr

def FillError.message : FillError → String
  | .tooFew => "not enough arguments for format string"
  | .tooMany => "not all arguments converted during string formatting"

/-- a text with each `%s` replaced by the next argument and each `%%` by a percent sign -/
def fillText : Text → List String → Except FillError Text
  | [], [] => .ok []
  | [], _ :: _ => .error .tooMany
  | '%' :: 's' :: _, [] => .error .tooFew
  | '%' :: 's' :: t, a :: args => (fillText t args).map (a.toList ++ ·)
  | '%' :: '%' :: t, args => (fillText t args).map ('%' :: ·)
  | c :: t, args => (fillText t args).map (c :: ·)

/-- a message with its arguments in place; without arguments it is taken as it is -/
def fillTemplate (message : String) (args : List String) : Except FillError String :=
  if args.isEmpty then .ok message else (fillText message.toList args).map String.ofList

/-! ## failures -/

inductive FailureKind where
  | badValue
  | badState
  | missingKey
  deriving DecidableEq, Repr

def FailureKind.name : FailureKind → String
  | .badValue => "ValueError"
  | .badState => "RuntimeError"
  | .missingKey => "KeyError"

structure Failure where
  kind : FailureKind
  argument : Option String
  deriving DecidableEq, Repr

/-- what a failure says; a missing key is quoted -/
def Failure.detail (f : Failure) : String :=
  match f.kind, f.argument with
  | _, none => ""
  | .missingKey, some key => Text.quoted key
  | _, some s => s

def Failure.text (f : Failure) : String :=
  if f.detail.isEmpty then f.kind.name else f.kind.name ++ ": " ++ f.detail

/-! ## lines -/

def rootLogger : String := "luau_props_lsp"

/-- the name of a logger in a line: loggers of this program are called by the rest of their name -/
def shortName (logger : String) : String :=
  match Text.after? (rootLogger ++ ".").toList logger.toList with
  | some rest => String.ofList rest
  | none => if logger = rootLogger then "LuauPropsLSP" else logger

def Level.letter (l : Level) : String := String.ofList (l.name.toList.take 1)

/-- the colour that ends all colouring -/
def plainColor : String := "\x1b[0m"

def Level.color (l : Level) : String :=
  if l = .debug then "\x1b[36m"
  else if l = .info then "\x1b[32m"
  else if l = .warning then "\x1b[33m"
  else if l = .error then "\x1b[31m"
  else if l = .critical then "\x1b[35m"
  else plainColor

/-- the line of a record written at the given time -/
def Record.render (colored : Bool) (time : String) (r : Record) : String :=
  let header := "[" ++ r.level.letter ++ " " ++ time ++ " " ++ shortName r.logger ++ "]"
  let header := if colored then r.level.color ++ header ++ plainColor else header
  header ++ " " ++ r.message

/-- the lines of a record that carries a failure -/
def Record.renderWith (colored : Bool) (time : String) (failure : Option Failure) (r : Record) :
    String :=
  match failure with
  | none => r.render colored time
  | some f => r.render colored time ++ "\n" ++ f.text

/-! ## entries -/

/-- what a part of the program hands over to be written -/
structure Entry where
  level : Level
  logger : String
  /-- the message, with places for the arguments -/
  template : String
  args : List String
  moment : Moment
  failure : Option Failure
  deriving DecidableEq, Repr

inductive LineError where
  | moment (e : MomentError)
  | fill (e : FillError)
  deriving DecidableEq, Repr

def LineError.message : LineError → String
  | .moment e => e.message
  | .fill e => e.message

/-- the lines of an entry; its moment is looked at before its arguments are -/
def Entry.line (colored : Bool) (e : Entry) : Except LineError String := do
  let moment ← e.moment.check.mapError .moment
  let message ← (fillTemplate e.template e.args).mapError .fill
  return Record.renderWith colored moment.text e.failure ⟨e.level, e.logger, message⟩

end ElementProps.Log

import ElementProps.CommandLine.Misuse
import ElementProps.Text.Basic
import ElementProps.Text.Digit

/-!
# Options and operands

A command takes options, in any order, and at most one operand. An option is a switch, which may
have a one-letter form, or takes a value; its name may be abbreviated as long as only one option
fits. A value follows its option, either as the next argument or after `=`; the value `--` after
`=` counts as no value. Letters of switches may stand together in one argument. After `--` there
are no options.

* `Grammar`              the options and the operand of a command;
* `Grammar.tokens`       the arguments of a command, each told apart as option or operand;
* `Grammar.scan`         the events of a command line in order, up to the first misuse.
-/

namespace ElementProps.CommandLine

/-! ## grammars -/

/-- an option of a command; `κ` is the type of its key -/
inductive Opt (κ : Type) where
  | switch (key : κ) (long : String) (letter : Option Char)
  | valued (key : κ) (long : String)

namespace Opt
variable {κ : Type}

def letter : Opt κ → Option Char
  | .switch _ _ l => l
  | .valued _ _ => none

def long : Opt κ → String
  | .switch _ l _ => l
  | .valued _ l => l

/-- the names of an option, the one-letter form first -/
def names (o : Opt κ) : List String :=
  (o.letter.map fun c => String.ofList ['-', c]).toList ++ [o.long]

/-- an option as messages call it -/
def title (o : Opt κ) : String := "/".intercalate o.names

end Opt

/-- what a command takes beside options -/
inductive Operand where
  | none
  /-- one argument -/
  | one
  /-- the name of a further command, to which all arguments after it belong -/
  | command
  deriving DecidableEq, Repr

structure Grammar (κ : Type) where
  options : List (Opt κ)
  operand : Operand

/-! ## tokens -/

/-- what stands in the same argument as its option -/
inductive Attached where
  /-- a value after the `=` behind a long name -/
  | joined (value : String)
  /-- what stands behind a one-letter form, without the `=` that may come first -/
  | trailing (rest : Text)

inductive Token (κ : Type) where
  | option (opt : Opt κ) (attached : Option Attached) (raw : String)
  /-- looks like an option, and is none of this command -/
  | unknown (raw : String)
  | operand (raw : String)
  /-- the first `--` -/
  | separator

def Token.raw {κ : Type} : Token κ → String
  | .option _ _ raw => raw
  | .unknown raw => raw
  | .operand raw => raw
  | .separator => "--"

/-- A number with a minus sign: digits, perhaps with a point before the last of them. A line break
at the end does not matter. -/
def isNegativeNumber : Text → Bool
  | '-' :: t =>
    let t := if t.getLast? = some '\n' then t.dropLast else t
    match t.dropWhile Text.isDecimal with
    | [] => !t.isEmpty
    | '.' :: f => !f.isEmpty && f.all Text.isDecimal
    | _ => false
  | _ => false

namespace Grammar
variable {κ : Type}

def named? (g : Grammar κ) (name : String) : Option (Opt κ) :=
  g.options.find? fun o => o.names.contains name

def lettered? (g : Grammar κ) (c : Char) : Option (Opt κ) :=
  g.options.find? fun o => o.letter == some c

def abbreviated (g : Grammar κ) (stem : Text) : List (Opt κ) :=
  g.options.filter fun o => stem.isPrefixOf o.long.toList

/-- the options that an argument beginning with `-` can stand for, when it is no exact name -/
def candidates (g : Grammar κ) : Text → List (Opt κ × Option Attached)
  | '-' :: '-' :: t =>
    let stem := '-' :: '-' :: t.takeWhile (· != '=')
    let attached := match t.dropWhile (· != '=') with
      | [] => none
      | _ :: value => some (Attached.joined (String.ofList value))
    (g.abbreviated stem).map (·, attached)
  | '-' :: c :: t => (g.lettered? c).toList.map (·, some (.trailing t))
  | _ => []

def attachedTo : Text → Text → Attached
  | '-' :: '-' :: _, value => .joined (String.ofList value)
  | _, value => .trailing value

/-- the option that an argument names exactly, or with something after `=` -/
def spelled? (g : Grammar κ) (arg : String) : Option (Opt κ × Option Attached) :=
  match g.named? arg with
  | some o => some (o, none)
  | none =>
    match arg.toList.takeWhile (· != '='), arg.toList.dropWhile (· != '=') with
    | name, _ :: value =>
      (g.named? (String.ofList name)).map (·, some (attachedTo name value))
    | _, [] => none

/-- An argument told apart. One that begins with `-` and is no option is an operand when it is a
negative number or holds a space. -/
def token (g : Grammar κ) (arg : String) : Except Misuse (Token κ) :=
  if arg = "-" || arg.toList.head? != some '-' then .ok (.operand arg)
  else match g.spelled? arg with
    | some (o, attached) => .ok (.option o attached arg)
    | none =>
      match g.candidates arg.toList with
      | [(o, attached)] => .ok (.option o attached arg)
      | [] =>
        if isNegativeNumber arg.toList || arg.toList.contains ' ' then .ok (.operand arg)
        else .ok (.unknown arg)
      | several => .error (.ambiguous arg (several.map fun c => c.1.long))

def tokens (g : Grammar κ) : List String → Except Misuse (List (Token κ))
  | [] => .ok []
  | arg :: rest =>
    if arg = "--" then .ok (.separator :: rest.map .operand)
    else do return (← g.token arg) :: (← g.tokens rest)

end Grammar

/-! ## events -/

/-- what happens as a command line is read -/
inductive Event (κ : Type) where
  | switch (key : κ)
  /-- an option with its value, which may be withheld -/
  | value (key : κ) (option : String) (value : Option String)
  /-- the operand; a command comes with its own arguments -/
  | operand (args : List String)
  /-- an argument that the command does not take -/
  | extra (arg : String)

/-- the events of a command line in order, and the misuse at which reading stopped -/
structure Scan (κ : Type) where
  events : List (Event κ)
  misuse : Option Misuse

namespace Scan
variable {κ : Type}

def cons (e : Event κ) (s : Scan κ) : Scan κ := ⟨e :: s.events, s.misuse⟩

def stop (m : Misuse) : Scan κ := ⟨[], some m⟩

end Scan

namespace Grammar
variable {κ : Type}

/-- The events of a switch whose one-letter form is followed by the given text: each character of
it must be the letter of a further switch, and there must be one. -/
def cluster (g : Grammar κ) (o : Opt κ) (key : κ) : Text → Except Misuse (List (Event κ))
  | [] => .error (.valueIgnored o.title "")
  | c :: t =>
    match g.lettered? c with
    | some (.switch key' long letter) =>
      if t.isEmpty then .ok [.switch key, .switch key']
      else (g.cluster (.switch key' long letter) key' t).map (.switch key :: ·)
    | _ => .error (.valueIgnored o.title (String.ofList (c :: t)))

/-- the value that stands after `=`; `--` there counts as no value -/
def joinedValue (value : String) : Option String := if value = "--" then none else some value

/-- The events of a command line. `pending` says that the operand is still to come. -/
def scanTokens (g : Grammar κ) (pending : Operand) : List (Token κ) → Scan κ
  | [] => ⟨[], none⟩
  | .unknown raw :: rest => (g.scanTokens pending rest).cons (.extra raw)
  | .option (.switch key long letter) attached _ :: rest =>
    let o := Opt.switch key long letter
    match attached with
    | none => (g.scanTokens pending rest).cons (.switch key)
    | some (.joined value) => .stop (.valueIgnored o.title value)
    | some (.trailing t) =>
      match g.cluster o key t with
      | .error m => .stop m
      | .ok events =>
        let s := g.scanTokens pending rest
        ⟨events ++ s.events, s.misuse⟩
  | .option (.valued key long) (some (.joined value)) _ :: rest =>
    (g.scanTokens pending rest).cons (.value key long (joinedValue value))
  | .option (.valued key long) _ _ :: .operand value :: rest =>
    (g.scanTokens pending rest).cons (.value key long (some value))
  | .option (.valued _ long) _ _ :: _ => .stop (.valueExpected long)
  | .separator :: .operand raw :: rest =>
    match pending with
    | .none => ((g.scanTokens .none rest).cons (.extra raw)).cons (.extra "--")
    | .one => (g.scanTokens .none rest).cons (.operand [raw])
    | .command => ⟨[.operand ("--" :: raw :: rest.map Token.raw)], none⟩
  | .separator :: rest => (g.scanTokens pending rest).cons (.extra "--")
  | .operand raw :: rest =>
    match pending with
    | .none => (g.scanTokens .none rest).cons (.extra raw)
    | .one =>
      match rest with
      | .separator :: rest => (g.scanTokens .none rest).cons (.operand [raw])
      | rest => (g.scanTokens .none rest).cons (.operand [raw])
    | .command => ⟨[.operand (raw :: rest.map Token.raw)], none⟩

/-- The events of a command line in order, up to the first misuse. An ambiguous abbreviation
anywhere comes before all events. -/
def scan (g : Grammar κ) (args : List String) : Scan κ :=
  match g.tokens args with
  | .error m => .stop m
  | .ok ts => g.scanTokens g.operand ts

end Grammar

end ElementProps.CommandLine

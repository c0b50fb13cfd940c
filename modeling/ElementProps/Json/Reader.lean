import ElementProps.Json.Basic
import ElementProps.Text.Hex
import ElementProps.Text.Numeral

/-!
# Reading JSON

The reader takes RFC 8259 and also `NaN`, `Infinity` and `-Infinity`. White space is space, tab,
line feed and carriage return. Each complaint names the place where it arises.

* `Complaint`            what is wrong with a text, and the words for it;
* `codePoints`           what a string is written for, halves of surrogate pairs included;
* `Json.read room t`     the value of a text, or the first complaint with its place;
* `Place.of`             the line, column and offset of a place.

How deep arrays and objects may be nested is up to the caller: `room` is the depth that the stack
has left. Every string of a value is text. A surrogate that stands alone is no character, so a
string with one is read inexactly, with U+FFFD in the place of the surrogate; two keys are the same
only if they were so before that. Statements about what a text stands for leave such texts out.
-/

namespace ElementProps.Json

/-! ## complaints -/

inductive Complaint where
  | byteOrderMark
  | value
  | propertyName
  | colon
  | comma
  | extraData
  | openString
  | controlCharacter
  | escape
  | unicodeEscape
  deriving DecidableEq, Repr

def Complaint.text : Complaint → String
  | .byteOrderMark => "Unexpected UTF-8 BOM (decode using utf-8-sig)"
  | .value => "Expecting value"
  | .propertyName => "Expecting property name enclosed in double quotes"
  | .colon => "Expecting ':' delimiter"
  | .comma => "Expecting ',' delimiter"
  | .extraData => "Extra data"
  | .openString => "Unterminated string starting at"
  | .controlCharacter => "Invalid control character at"
  | .escape => "Invalid \\escape"
  | .unicodeEscape => "Invalid \\uXXXX escape"

inductive Container where
  | array
  | object
  deriving DecidableEq, Repr

def Container.name : Container → String
  | .array => "array"
  | .object => "object"

/-- why a text has no value; a place is given by the text from there on -/
inductive Fault where
  | malformed (complaint : Complaint) (rest : Text)
  /-- a whole number has more digits than are taken -/
  | numeralTooLong (digits : Nat)
  /-- a container begins inside too many others -/
  | nestedTooDeep (container : Container)

/-! ## white space and numbers -/

def isSpace (c : Char) : Bool := c == ' ' || c == '\t' || c == '\n' || c == '\r'

def skipSpace (t : Text) : Text := t.dropWhile isSpace

def digitsValue (ds : Text) : Nat := ds.foldl (fun n d => 10 * n + (d.toNat - '0'.toNat)) 0

/-- the whole part of a number: `0`, or digits that do not begin with `0` -/
def wholePart? : Text → Option (Text × Text)
  | '0' :: t => some (['0'], t)
  | t =>
    match t.takeWhile Char.isDigit with
    | [] => none
    | d :: ds => some (d :: ds, t.dropWhile Char.isDigit)

/-- the fraction with which a text begins, and what follows; both parts as they stand -/
def fraction : Text → Text × Text
  | '.' :: t =>
    match t.takeWhile Char.isDigit with
    | [] => ([], '.' :: t)
    | d :: ds => ('.' :: d :: ds, t.dropWhile Char.isDigit)
  | t => ([], t)

def sign : Text → Text × Text
  | '+' :: t => (['+'], t)
  | '-' :: t => (['-'], t)
  | t => ([], t)

def exponent : Text → Text × Text
  | [] => ([], [])
  | c :: t =>
    if c == 'e' || c == 'E' then
      let (s, digits) := sign t
      match digits.takeWhile Char.isDigit with
      | [] => ([], c :: t)
      | d :: ds => (c :: s ++ d :: ds, digits.dropWhile Char.isDigit)
    else ([], c :: t)

def readNumber (t : Text) : Except Fault (Json × Text) :=
  let (minus, unsigned) := match t with
    | '-' :: u => (['-'], u)
    | u => ([], u)
  match wholePart? unsigned with
  | none => .error (.malformed .value t)
  | some (whole, rest) =>
    let (f, rest) := fraction rest
    let (e, rest) := exponent rest
    if f.isEmpty && e.isEmpty then
      if Text.maxDigits < whole.length then .error (.numeralTooLong whole.length)
      else
        let n : Int := digitsValue whole
        .ok (.int (if minus.isEmpty then n else -n), rest)
    else .ok (.float (String.ofList (minus ++ whole ++ f ++ e)), rest)

/-! ## strings -/

/-- the character of a one-letter escape -/
def escaped? : Char → Option Char
  | '"' => some '"'
  | '\\' => some '\\'
  | '/' => some '/'
  | 'b' => some '\x08'
  | 'f' => some '\x0c'
  | 'n' => some '\n'
  | 'r' => some '\r'
  | 't' => some '\t'
  | _ => none

/-- The code units of a string up to its closing quote, and what follows. `opening` is the text
from the opening quote on. An escape must be followed by a further character. -/
def stringUnits (opening : Text) : Text → Except Fault (List Nat × Text)
  | [] => .error (.malformed .openString opening)
  | '"' :: t => .ok ([], t)
  | '\\' :: [] => .error (.malformed .openString opening)
  | '\\' :: 'u' :: a :: b :: c :: d :: t =>
    match (if t.isEmpty then none else Text.hexNumber? [a, b, c, d]) with
    | none => .error (.malformed .unicodeEscape ('u' :: a :: b :: c :: d :: t))
    | some unit => do
      let (units, rest) ← stringUnits opening t
      return (unit :: units, rest)
  | '\\' :: e :: t =>
    if e = 'u' then .error (.malformed .unicodeEscape (e :: t))
    else match escaped? e with
      | none => .error (.malformed .escape ('\\' :: e :: t))
      | some c => do
        let (units, rest) ← stringUnits opening t
        return (c.toNat :: units, rest)
  | c :: t =>
    if c.toNat < 0x20 then .error (.malformed .controlCharacter (c :: t))
    else do
      let (units, rest) ← stringUnits opening t
      return (c.toNat :: units, rest)

/-- The code points of code units: a high surrogate joins with a low one after it, and one that
stays alone is kept. -/
def codePoints : List Nat → List Nat
  | u :: v :: rest =>
    if 0xD800 ≤ u ∧ u < 0xDC00 ∧ 0xDC00 ≤ v ∧ v < 0xE000 then
      (0x10000 + (u - 0xD800) * 0x400 + (v - 0xDC00)) :: codePoints rest
    else u :: codePoints (v :: rest)
  | units => units

/-- the character of a code point; a surrogate that stands alone is none, and is replaced -/
def charOf (n : Nat) : Char := if n.isValidChar then Char.ofNat n else '\uFFFD'

def stringOf (ns : List Nat) : String := String.ofList (ns.map charOf)

/-- the code points of the string that begins with the opening quote of a text -/
def readString (t : Text) : Except Fault (List Nat × Text) := do
  let (units, rest) ← stringUnits t t.tail
  return (codePoints units, rest)

/-- The object with the given members. Keys are compared as they are written, by code points. -/
def objectOf (members : List (List Nat × Json)) : Json :=
  .obj ((lastValues members).map fun m => (stringOf m.1, m.2))

/-! ## values -/

def literals : List (String × Json) :=
  [("null", .null), ("true", .bool true), ("false", .bool false), ("NaN", .float "NaN"),
   ("Infinity", .float "Infinity"), ("-Infinity", .float "-Infinity")]

def readScalar (t : Text) : Except Fault (Json × Text) :=
  match literals.findSome? fun l => (Text.after? l.1.toList t).map (l.2, ·) with
  | some r => .ok r
  | none => readNumber t

mutual

/-- The value with which a text begins, and what follows. `room` says how many containers may be
nested from here on; the other number bounds the depth of the recursion, and twice the length of
the text is enough for it. -/
def readValue (room : Nat) : Nat → Text → Except Fault (Json × Text)
  | 0, t => .error (.malformed .value t)
  | fuel + 1, t =>
    match t with
    | '"' :: _ => do
      let (ns, rest) ← readString t
      return (.str (stringOf ns), rest)
    | '[' :: t =>
      match room with
      | 0 => .error (.nestedTooDeep .array)
      | room + 1 =>
        match skipSpace t with
        | ']' :: rest => .ok (.arr [], rest)
        | t => do
          let (items, rest) ← readItems room fuel t
          return (.arr items, rest)
    | '{' :: t =>
      match room with
      | 0 => .error (.nestedTooDeep .object)
      | room + 1 =>
        match skipSpace t with
        | '}' :: rest => .ok (.obj [], rest)
        | t => do
          let (members, rest) ← readMembers room fuel t
          return (objectOf members, rest)
    | t => readScalar t

/-- the items of an array that is not empty, up to its closing bracket -/
def readItems (room : Nat) : Nat → Text → Except Fault (List Json × Text)
  | 0, t => .error (.malformed .value t)
  | fuel + 1, t => do
    let (item, rest) ← readValue room fuel t
    match skipSpace rest with
    | ']' :: rest => return ([item], rest)
    | ',' :: rest =>
      let (items, rest) ← readItems room fuel (skipSpace rest)
      return (item :: items, rest)
    | rest => .error (.malformed .comma rest)

/-- the members of an object that is not empty, up to its closing brace -/
def readMembers (room : Nat) : Nat → Text → Except Fault (List (List Nat × Json) × Text)
  | 0, t => .error (.malformed .value t)
  | fuel + 1, t =>
    match t with
    | '"' :: _ => do
      let (key, rest) ← readString t
      match skipSpace rest with
      | ':' :: rest =>
        let (value, rest) ← readValue room fuel (skipSpace rest)
        match skipSpace rest with
        | '}' :: rest => return ([(key, value)], rest)
        | ',' :: rest =>
          let (members, rest) ← readMembers room fuel (skipSpace rest)
          return ((key, value) :: members, rest)
        | rest => .error (.malformed .comma rest)
      | rest => .error (.malformed .colon rest)
    | t => .error (.malformed .propertyName t)

end

/-- the value of a text in which containers may be nested as deep as `room` says -/
def read (room : Nat) (t : Text) : Except Fault Json :=
  match t with
  | '\uFEFF' :: _ => .error (.malformed .byteOrderMark t)
  | _ => do
    let (value, rest) ← readValue room (2 * t.length + 1) (skipSpace t)
    match skipSpace rest with
    | [] => return value
    | rest => .error (.malformed .extraData rest)

/-! ## places -/

structure Place where
  /-- the line, from one -/
  line : Nat
  /-- the column, from one -/
  column : Nat
  /-- the offset, from zero -/
  offset : Nat
  deriving DecidableEq, Repr

/-- the place that a text reaches after the given characters -/
def Place.after (before : Text) : Place where
  line := before.count '\n' + 1
  column := (before.reverse.takeWhile (· != '\n')).length + 1
  offset := before.length

/-- the place in `t` at which the text from there on is `rest` -/
def Place.of (t rest : Text) : Place := .after (t.take (t.length - rest.length))

/-- the words for a complaint about the text `t` -/
def Fault.message (t : Text) : Fault → String
  | .malformed c rest =>
    let p := Place.of t rest
    c.text ++ ": line " ++ toString p.line ++ " column " ++ toString p.column
      ++ " (char " ++ toString p.offset ++ ")"
  | .numeralTooLong digits =>
    "Exceeds the limit (" ++ toString Text.maxDigits
      ++ " digits) for integer string conversion: value has " ++ toString digits
      ++ " digits; use sys.set_int_max_str_digits() to increase the limit"
  | .nestedTooDeep c =>
    "maximum recursion depth exceeded while decoding a JSON " ++ c.name ++ " from a unicode string"

end ElementProps.Json

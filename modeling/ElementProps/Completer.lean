import ElementProps.Completion
import ElementProps.Line
import ElementProps.Log.Basic
import ElementProps.PropertyMap
import ElementProps.PropsTable
import ElementProps.Lookback

/-!
# Completion at a cursor

* `Completer`          the built-in properties and how far to look back;
* `Finding`            what a cursor position turns out to be: three reasons to offer nothing,
                       or the properties of a class;
* `Completer.find`     the finding at an offset;
* `Finding.completions`, `Finding.log`   what a finding offers and reports.

Nothing is kept between two queries: the user's properties come with each of them.
-/

namespace ElementProps

/-- how many characters before the cursor are looked at by default -/
def defaultLookback : Int := 2000

/-- what completion knows without the user's settings -/
structure Completer where
  /-- the properties of classes that the user's settings leave out -/
  builtin : PropertyMap := PropertyMap.builtin
  /-- how many characters before the cursor are looked at -/
  lookback : Int := defaultLookback

/-- what a cursor position turns out to be -/
inductive Finding where
  /-- no element call stands before the cursor -/
  | noCall
  /-- the last call names a class without known properties -/
  | unknownClass (className : String)
  /-- the table of the last call is closed before the cursor -/
  | outsideTable (className : String)
  /-- the cursor is in the table of a class with known properties -/
  | offer (className : String) (properties : List String)
  deriving DecidableEq, Repr

namespace Finding

def completions : Finding → List Completion
  | .offer className properties => completionsFor className properties
  | _ => []

/-- why a finding offers nothing -/
def reason? : Finding → Option String
  | .noCall => some "No element call before the cursor"
  | .unknownClass c => some ("No properties known for " ++ c)
  | .outsideTable c => some ("Cursor is outside the props table of " ++ c)
  | .offer _ _ => none

def log (f : Finding) : List Log.Record :=
  f.reason?.toList.map (Log.Record.debug .completer)

end Finding

/-- the finding at the end of the text before the cursor -/
def findIn (builtin : PropertyMap) (user : Option PropertyMap) (w : Text) : Finding :=
  match lastCall? w with
  | none => .noCall
  | some c =>
    match PropertyMap.offered builtin user c with
    | none | some [] => .unknownClass c
    | some (p :: ps) => if insideTable w c then .offer c (p :: ps) else .outsideTable c

namespace Completer

def find (k : Completer) (user : Option PropertyMap) (t : Text) (offset : Int) : Finding :=
  findIn k.builtin user (beforeCursor t offset k.lookback)

/-- the finding at a zero-based line and character of a text -/
def findAt (k : Completer) (user : Option PropertyMap) (t : Text) (line character : Int) :
    Finding :=
  k.find user t (cursorOffset t line character)

def complete (k : Completer) (user : Option PropertyMap) (t : Text) (offset : Int) :
    List Completion :=
  (k.find user t offset).completions

end Completer

end ElementProps

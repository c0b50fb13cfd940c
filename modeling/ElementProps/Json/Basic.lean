/-!
# JSON values

An object keeps its members in the order of the text.

* `Json`                 the values; whole numbers are kept exactly, other numbers as written;
* `Json.setMember`       a member in its place: a key that is already there keeps its place;
* `Json.lastValues`      members that may repeat a key, each key once: the last value counts.
-/

namespace ElementProps

inductive Json where
  | null
  | bool (b : Bool)
  | int (n : Int)
  /-- a number with a fraction or an exponent, or one that is not finite, as it is written -/
  | float (literal : String)
  | str (s : String)
  | arr (items : List Json)
  | obj (members : List (String × Json))

namespace Json

/-- a value under a key: in the place of the key, or at the end for a new one -/
def setMember {κ : Type} [DecidableEq κ] (key : κ) (value : Json) :
    List (κ × Json) → List (κ × Json)
  | [] => [(key, value)]
  | (k, v) :: rest => if k = key then (k, value) :: rest else (k, v) :: setMember key value rest

/-- the given members with each key once; of a repeated key the last value counts -/
def lastValues {κ : Type} [DecidableEq κ] (members : List (κ × Json)) : List (κ × Json) :=
  members.foldl (fun ms m => setMember m.1 m.2 ms) []

def get? (key : String) : Json → Option Json
  | .obj members => members.lookup key
  | _ => none

def str? : Json → Option String
  | .str s => some s
  | _ => none

end Json

end ElementProps

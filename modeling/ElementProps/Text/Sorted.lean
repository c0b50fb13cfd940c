/-!
# Sorted names

Names are sorted by code point.
-/

namespace ElementProps.Text

/-- a name in its place among sorted names, after equal ones -/
def insertSorted (s : String) : List String → List String
  | [] => [s]
  | x :: xs => if s < x then s :: x :: xs else x :: insertSorted s xs

def sorted (ss : List String) : List String := ss.foldl (fun acc s => insertSorted s acc) []

end ElementProps.Text

import ElementProps.Line

/-!
# Client positions

A client addresses a document by line and character, and counts characters in code units of the
encoding that was agreed on. Only the characters above U+FFFF, the astral ones, take more than one
unit.

Two weights describe an encoding. One says how long a line is, the other how far a step over a
character goes; in UTF-16 both are two. In the other encodings they differ, and a character inside
a line may then be reached later than its units say.

* `Position.check`         a position from two integers, each in the range of the protocol;
* `Encoding.units`         the length of a text in code units;
* `Encoding.reach`         how many characters it takes to cover a number of units;
* `Position.offset`        the offset of a position, clamped to its line and to the text;
* `reach_le`, `offset_le`  offsets so computed lie in the line and in the text.
-/

namespace ElementProps

/-! ## positions -/

/-- a place in a document as a client gives it, zero-based -/
structure Position where
  line : Nat
  character : Nat
  deriving DecidableEq, Repr

/-- the greatest line or character that a position can have -/
def Position.max : Nat := 2147483647

inductive PositionError where
  | line (n : Int)
  | character (n : Int)
  deriving DecidableEq, Repr

def PositionError.message : PositionError → String
  | .line n => describe "line" n
  | .character n => describe "character" n
where
  describe (component : String) (n : Int) : String :=
    "Position." ++ component ++ " should be in range [0:" ++ toString Position.max
      ++ "], but was " ++ toString n ++ "."

def Position.inRange (n : Int) : Bool := decide (0 ≤ n) && decide (n ≤ Position.max)

/-- a position from two integers; the line is checked first -/
def Position.check (line character : Int) : Except PositionError Position :=
  if !Position.inRange line then .error (.line line)
  else if !Position.inRange character then .error (.character character)
  else .ok ⟨line.toNat, character.toNat⟩

/-! ## encodings -/

/-- the units in which a client counts characters -/
inductive Encoding where
  | utf8
  | utf16
  | utf32
  deriving DecidableEq, Repr

def isAstral (c : Char) : Bool := decide (0xFFFF < c.toNat)

namespace Encoding

def name : Encoding → String
  | .utf8 => "utf-8"
  | .utf16 => "utf-16"
  | .utf32 => "utf-32"

/-- the encoding of a name; any other name stands for UTF-16 -/
def ofName (s : String) : Encoding :=
  if s = "utf-8" then .utf8 else if s = "utf-32" then .utf32 else .utf16

/-- The encoding for a client that offers the named ones: UTF-16 if it can be, then UTF-32, then
UTF-8. A client that names none takes UTF-16. -/
def negotiate : Option (List String) → Encoding
  | none => .utf16
  | some names =>
    if names.contains "utf-16" then .utf16
    else if names.contains "utf-32" then .utf32
    else if names.contains "utf-8" then .utf8
    else .utf16

/-- what an astral character adds to the length of a line -/
def length : Encoding → Nat
  | .utf8 => 3
  | .utf16 => 2
  | .utf32 => 1

/-- how far a step over an astral character goes -/
def stride : Encoding → Nat
  | .utf8 => 6
  | .utf16 => 2
  | .utf32 => 3

/-- the length of a text in code units -/
def units (e : Encoding) : Text → Nat
  | [] => 0
  | c :: t => (if isAstral c then e.length else 1) + units e t

theorem units_nil (e : Encoding) : e.units [] = 0 := rfl
theorem units_cons (e : Encoding) (c : Char) (t : Text) :
    e.units (c :: t) = (if isAstral c then e.length else 1) + e.units t := rfl

/-- the fewest characters of a text whose steps cover `n` units, or all of them -/
def reach (e : Encoding) (n : Nat) : Text → Nat
  | [] => 0
  | c :: t => if n = 0 then 0 else 1 + reach e (n - if isAstral c then e.stride else 1) t

theorem reach_zero (e : Encoding) (t : Text) : e.reach 0 t = 0 := by
  cases t <;> simp [reach]

theorem reach_le (e : Encoding) (n : Nat) (t : Text) : e.reach n t ≤ t.length := by
  induction t generalizing n with
  | nil => simp [reach]
  | cons c t ih =>
    simp only [reach, List.length_cons]
    split
    · omega
    · have := ih (n - if isAstral c then e.stride else 1)
      omega

end Encoding

/-! ## offsets of positions -/

/-- how many characters of a line lie before a position in it; past its end, all of them -/
def Line.column (e : Encoding) (l : Line) (character : Nat) : Nat :=
  if character ≤ e.units l.body then e.reach character l.body else l.body.length

theorem Line.column_le (e : Encoding) (l : Line) (character : Nat) :
    l.column e character ≤ l.body.length := by
  unfold Line.column
  split
  · exact e.reach_le _ _
  · exact Nat.le_refl _

/-- the offset of a client's position; a line that does not exist is the end of the text -/
def Position.offset (e : Encoding) (t : Text) (p : Position) : Nat :=
  let ls := linesOf t
  match ls[p.line]? with
  | none => t.length
  | some l => lineStart ls p.line + l.column e p.character

theorem Position.offset_le (e : Encoding) (t : Text) (p : Position) :
    p.offset e t ≤ t.length := by
  unfold Position.offset
  dsimp only
  split
  · exact Nat.le_refl _
  · next l hl =>
    have h := lineStart_add_le hl
    rw [linesOf_flatten] at h
    have h1 := l.length_body_le
    have h2 := l.column_le e p.character
    omega

/-- the offsets of the first characters of every line, and of the line after the last; `width` says
how many characters -/
def offsetGrid (e : Encoding) (t : Text) (width : Nat) : List (List Nat) :=
  (List.range ((linesOf t).length + 1)).map fun line =>
    (List.range width).map fun character => Position.offset e t ⟨line, character⟩

end ElementProps

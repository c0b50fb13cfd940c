import ElementProps.Position

/-!
# Edits of a document

A client reports a change either as the whole new text or as a replacement between two positions.
Changes apply one after the other, each to the text that the previous one left.

* `Edit`                  a change, its positions as integers or checked;
* `Edit.apply`            the text after one change;
* `applyEdits`            the text after a list of changes.
-/

namespace ElementProps

/-- a change of a text; `P` is the type of its positions -/
inductive Edit (P : Type) where
  /-- the text is replaced as a whole -/
  | full (text : Text)
  /-- the part between two positions is replaced -/
  | ranged (first last : P) (text : Text)

namespace Edit

/-- a change whose positions are in range; the first position is checked first -/
def check : Edit (Int × Int) → Except PositionError (Edit Position)
  | .full text => .ok (.full text)
  | .ranged a b text => do
    let first ← Position.check a.1 a.2
    let last ← Position.check b.1 b.2
    return .ranged first last text

/-- The text after a change. A range that ends before it starts is empty at its start. -/
def apply (e : Encoding) (t : Text) : Edit Position → Text
  | .full text => text
  | .ranged first last text =>
    let a := first.offset e t
    let b := last.offset e t
    t.take a ++ text ++ t.drop (max a b)

theorem apply_ranged (e : Encoding) (t : Text) (first last : Position) (text : Text) :
    (Edit.ranged first last text).apply e t =
      t.take (first.offset e t) ++ text ++ t.drop (max (first.offset e t) (last.offset e t)) :=
  rfl

end Edit

def applyEdits (e : Encoding) (t : Text) (edits : List (Edit Position)) : Text :=
  edits.foldl (Edit.apply e) t

theorem applyEdits_nil (e : Encoding) (t : Text) : applyEdits e t [] = t := rfl
theorem applyEdits_cons (e : Encoding) (t : Text) (c : Edit Position) (cs : List (Edit Position)) :
    applyEdits e t (c :: cs) = applyEdits e (c.apply e t) cs := rfl

def editSteps (e : Encoding) (t : Text) : List (Edit Position) → List Text
  | [] => []
  | c :: cs => c.apply e t :: editSteps e (c.apply e t) cs

end ElementProps

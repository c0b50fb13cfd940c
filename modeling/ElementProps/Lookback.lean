import ElementProps.Text.Basic

/-!
# The text before the cursor

Completion looks only at the text before the cursor, and of that only at the last characters.

* `inText t o`              the offset itself, or the end of the text for one outside it;
* `beforeCursor t o n`      at most `n` characters before the offset.
-/

namespace ElementProps

/-- an offset in the text; one outside it stands for the end -/
def inText (t : Text) (offset : Int) : Nat :=
  if 0 ≤ offset ∧ offset ≤ t.length then offset.toNat else t.length

theorem inText_le (t : Text) (offset : Int) : inText t offset ≤ t.length := by
  unfold inText
  split <;> omega

theorem inText_of_le {t : Text} {k : Nat} (h : k ≤ t.length) : inText t k = k := by
  unfold inText
  split <;> omega

/-- The last `lookback` characters before an offset. With a lookback of zero or less nothing is
seen. -/
def beforeCursor (t : Text) (offset lookback : Int) : Text :=
  let before := t.take (inText t offset)
  before.drop (before.length - lookback).toNat

end ElementProps

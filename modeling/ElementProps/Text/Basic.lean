/-!
# Texts

A text is a list of characters, so an offset into it counts characters.

* `Text.after? s t`      what follows `s` in a text `t` that begins with it;
* `Text.inRanges rs c`   membership of a character in a table of code point ranges;
* `after?_eq_some_iff`   the first is exactly removal of the leading part.
-/

namespace ElementProps

/-- a sequence of characters; offsets and lengths count characters -/
abbrev Text := List Char

namespace Text

/-! ## Leading parts -/

/-- what follows `s` in a text that begins with it -/
def after? : Text → Text → Option Text
  | [], t => some t
  | _ :: _, [] => none
  | a :: s, b :: t => if a = b then after? s t else none

theorem after?_append (s r : Text) : after? s (s ++ r) = some r := by
  induction s with
  | nil => rfl
  | cons a s ih => simp [after?, ih]

theorem eq_append_of_after? {s t r : Text} (h : after? s t = some r) : t = s ++ r := by
  fun_induction after? s t with
  | case1 t => simpa using h
  | case2 => simp at h
  | case3 a s t ih => simp [ih h]
  | case4 => simp at h

theorem after?_eq_some_iff {s t r : Text} : after? s t = some r ↔ t = s ++ r :=
  ⟨eq_append_of_after?, fun h => h ▸ after?_append s r⟩

/-! ## Tables of code points -/

/-- a character lies in one of the ranges, whose two ends belong to it -/
def inRanges (ranges : List (Nat × Nat)) (c : Char) : Bool :=
  ranges.any fun r => decide (r.1 ≤ c.toNat) && decide (c.toNat ≤ r.2)

theorem inRanges_eq_true_iff {ranges : List (Nat × Nat)} {c : Char} :
    inRanges ranges c = true ↔ ∃ r ∈ ranges, r.1 ≤ c.toNat ∧ c.toNat ≤ r.2 := by
  simp [inRanges]

end Text

end ElementProps

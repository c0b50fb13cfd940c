import ElementProps.Proofs.EditPlacement

/-!
# The order of edits

Each edit of a list is taken in the text that the edit before it has left. Two edits inside
different lines come to the same in either order: an edit inside a line changes the body of that
line only, and the other edit finds its own line under the same number. A lone `\r` would break
this: in front of a line that is emptied, it makes a single break with the `\n` that ends the line.

* `ReturnsPaired t`         every `\r` of a text is followed by `\n`;
* `Line.spliced`            the body of a line after an edit inside it;
* `apply_firstLine`         what an edit inside the first line leaves;
* `apply_nextLine`          an edit behind the first line leaves that line alone;
* `edits_commute`           edits inside different lines commute.
-/

namespace ElementProps

/-! ## texts without a lone `\r` -/

def ReturnsPaired (t : Text) : Prop := ∀ k < t.length, t[k]? = some '\r' → t[k + 1]? = some '\n'

instance (t : Text) : Decidable (ReturnsPaired t) :=
  inferInstanceAs (Decidable (∀ k < t.length, _ → _))

theorem ReturnsPaired.of_append {x t : Text} (h : ReturnsPaired (x ++ t)) : ReturnsPaired t := by
  intro k hk hr
  have hshift : ∀ i, (x ++ t)[x.length + i]? = t[i]? := by
    intro i
    rw [List.getElem?_append_right (Nat.le_add_right _ _), Nat.add_sub_cancel_left]
  have hn := h (x.length + k) (by rw [List.length_append]; omega) (by rw [hshift]; exact hr)
  rw [Nat.add_assoc, hshift] at hn
  exact hn

theorem ReturnsPaired.ne_cr {b : LineBreak} {rest : Text} (h : ReturnsPaired (b.text ++ rest))
    (hfits : b.Fits rest) : b ≠ .cr := by
  rintro rfl
  have hn : rest[0]? = some '\n' := h 0 (Nat.succ_pos _) rfl
  cases rest with
  | nil => exact absurd hn (by simp)
  | cons c rest => exact hfits rfl rest (by rw [Option.some.inj hn])

/-- a break other than a lone `\r` may be followed by anything -/
theorem LineBreak.fits_of_ne_cr {b : LineBreak} (h : b ≠ .cr) (rest : Text) : b.Fits rest :=
  fun hb => absurd hb h

/-! ## one edit -/

/-- the body of a line after the part between two characters of the line has been replaced -/
def Line.spliced (e : Encoding) (l : Line) (a b : Nat) (x : Text) : Text :=
  l.body.take (l.column e a) ++ x ++ l.body.drop (max (l.column e a) (l.column e b))

theorem NoBreak.spliced {l : Line} {x : Text} (hbody : NoBreak l.body) (hx : NoBreak x)
    (e : Encoding) (a b : Nat) : NoBreak (l.spliced e a b x) := by
  intro c hc
  rcases List.mem_append.1 hc with hc | hc
  · rcases List.mem_append.1 hc with hc | hc
    · exact hbody c (List.mem_of_mem_take hc)
    · exact hx c hc
  · exact hbody c (List.mem_of_mem_drop hc)

section
variable {body rest : Text} {b : LineBreak} (hbody : NoBreak body) (hfits : b.Fits rest)
include hbody hfits

/-- an edit inside the first line leaves the break of that line and what follows it -/
theorem apply_firstLine (e : Encoding) (m n : Nat) (x : Text) :
    (Edit.ranged ⟨0, m⟩ ⟨0, n⟩ x).apply e (body ++ (b.text ++ rest)) =
      Line.spliced e ⟨body, some b⟩ m n x ++ (b.text ++ rest) := by
  have hlines := linesOf_append hbody hfits
  have hm : Line.column e ⟨body, some b⟩ m ≤ body.length := Line.column_le e _ m
  have hn : Line.column e ⟨body, some b⟩ n ≤ body.length := Line.column_le e _ n
  rw [Edit.apply_ranged, offset_zero_eq hlines, offset_zero_eq hlines,
    List.take_append_of_le_length hm, List.drop_append_of_le_length (Nat.max_le.2 ⟨hm, hn⟩),
    ← List.append_assoc]
  rfl

/-- an edit behind the first line leaves that line and is an edit of what follows it -/
theorem apply_nextLine (e : Encoding) (i j m n : Nat) (x : Text) :
    (Edit.ranged ⟨i + 1, m⟩ ⟨j + 1, n⟩ x).apply e (body ++ (b.text ++ rest)) =
      body ++ (b.text ++ (Edit.ranged ⟨i, m⟩ ⟨j, n⟩ x).apply e rest) := by
  have hlines := linesOf_append hbody hfits
  have ht : body ++ (b.text ++ rest) = Line.text ⟨body, some b⟩ ++ rest :=
    (List.append_assoc _ _ _).symm
  rw [Edit.apply_ranged, Edit.apply_ranged, offset_succ_eq hlines ht, offset_succ_eq hlines ht, ht,
    Nat.add_max_add_left, List.take_length_add_append, List.drop_length_add_append,
    Line.text_some]
  simp only [List.append_assoc]

end

/-! ## two edits -/

/-- The edit that comes first in the text may be made first or last. The induction is on the lines
of the text, down to the line of that edit, which has a break as the other edit is behind it. -/
theorem apply_apply_of_lt (e : Encoding) {t : Text} (ht : ReturnsPaired t) {i j : Nat} (hij : i < j)
    (hj : j < (linesOf t).length) (m m' n n' : Nat) {x : Text} (hx : NoBreak x) (y : Text) :
    (Edit.ranged ⟨j, n⟩ ⟨j, n'⟩ y).apply e ((Edit.ranged ⟨i, m⟩ ⟨i, m'⟩ x).apply e t) =
      (Edit.ranged ⟨i, m⟩ ⟨i, m'⟩ x).apply e ((Edit.ranged ⟨j, n⟩ ⟨j, n'⟩ y).apply e t) := by
  induction t using Text.lineInduction generalizing i j with
  | last body hbody =>
    cases body with
    | nil => exact absurd hj (Nat.not_lt_zero j)
    | cons c body =>
      rw [linesOf_noBreak hbody (List.cons_ne_nil c body), List.length_singleton] at hj
      omega
  | line body b rest hbody hfits ih =>
    have hb : b ≠ .cr := ht.of_append.ne_cr hfits
    -- whatever the other edit makes of the rest, it may stand behind this break
    have hany := LineBreak.fits_of_ne_cr hb
    obtain ⟨j, rfl⟩ : ∃ k, j = k + 1 := ⟨j - 1, by omega⟩
    cases i with
    | zero =>
      have hspliced : NoBreak (Line.spliced e ⟨body, some b⟩ m m' x) := hbody.spliced hx e m m'
      rw [apply_firstLine hbody hfits, apply_nextLine hspliced hfits, apply_nextLine hbody hfits,
        apply_firstLine hbody (hany _)]
    | succ i =>
      have hlen : j < (linesOf rest).length := by
        rw [linesOf_append hbody hfits, List.length_cons] at hj
        omega
      rw [apply_nextLine hbody hfits, apply_nextLine hbody (hany _), apply_nextLine hbody hfits,
        apply_nextLine hbody (hany _), ih ht.of_append.of_append (Nat.lt_of_succ_lt_succ hij) hlen]

/-- **Edits inside different lines commute.** In a text without a lone `\r`, and in every encoding,
two edits inside different lines that bring in no line breaks leave the same text in either order.
Their characters may lie behind the end of the line, and their ranges may be reversed. -/
theorem edits_commute (e : Encoding) (t : Text) (ht : ReturnsPaired t) (i j : Nat) (hij : i ≠ j)
    (hi : i < (linesOf t).length) (hj : j < (linesOf t).length) (m m' n n' : Nat) (x y : Text)
    (hx : NoBreak x) (hy : NoBreak y) :
    applyEdits e t [.ranged ⟨i, m⟩ ⟨i, m'⟩ x, .ranged ⟨j, n⟩ ⟨j, n'⟩ y] =
      applyEdits e t [.ranged ⟨j, n⟩ ⟨j, n'⟩ y, .ranged ⟨i, m⟩ ⟨i, m'⟩ x] := by
  simp only [applyEdits_cons, applyEdits_nil]
  rcases Nat.lt_or_gt_of_ne hij with hlt | hgt
  · exact apply_apply_of_lt e ht hlt hj m m' n n' hx y
  · exact (apply_apply_of_lt e ht hgt hi n n' m m' hy x).symm

/-- a reversed range in the middle line, and an edit that empties the last line, which has no
break -/
theorem edits_commute_emptied :
    ReturnsPaired "a\r\n😀b\nc".toList ∧
    applyEdits .utf8 "a\r\n😀b\nc".toList
        [.ranged ⟨1, 9⟩ ⟨1, 0⟩ "x".toList, .ranged ⟨2, 0⟩ ⟨2, 1⟩ []] = "a\r\n😀bx\n".toList ∧
    applyEdits .utf8 "a\r\n😀b\nc".toList
        [.ranged ⟨2, 0⟩ ⟨2, 1⟩ [], .ranged ⟨1, 9⟩ ⟨1, 0⟩ "x".toList] = "a\r\n😀bx\n".toList := by
  have ht : ReturnsPaired "a\r\n😀b\nc".toList := by decide
  have hleft : applyEdits .utf8 "a\r\n😀b\nc".toList
      [.ranged ⟨1, 9⟩ ⟨1, 0⟩ "x".toList, .ranged ⟨2, 0⟩ ⟨2, 1⟩ []] = "a\r\n😀bx\n".toList := by
    decide
  have h := edits_commute .utf8 _ ht 1 2 (by decide) (by decide) (by decide) 9 0 0 1 "x".toList []
    (by simp [NoBreak]) (by simp [NoBreak])
  exact ⟨ht, hleft, h.symm.trans hleft⟩

-- behind a lone `\r` the emptied line is gone, and the other edit no longer finds its line
example :
    applyEdits .utf16 "a\rb\nc".toList
        [.ranged ⟨1, 0⟩ ⟨1, 1⟩ [], .ranged ⟨2, 0⟩ ⟨2, 0⟩ "x".toList] = "a\r\ncx".toList ∧
    applyEdits .utf16 "a\rb\nc".toList
        [.ranged ⟨2, 0⟩ ⟨2, 0⟩ "x".toList, .ranged ⟨1, 0⟩ ⟨1, 1⟩ []] = "a\r\nxc".toList := by
  decide

end ElementProps

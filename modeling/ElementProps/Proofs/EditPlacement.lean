import ElementProps.Proofs.ClientPositions

/-!
# Where edits take place

Only in UTF-16 do the length of a line and the steps over its characters agree; in the other
encodings a position may denote an odd place of its line. Even so the places of positions come in
the order of the positions, each lies in its line before the break, and so an edit reaches no other
lines than those that it names.

* `p ≤ q`                      the order of positions, by line and then by character;
* `offset_mono`                places come in the order of their positions;
* `lineStart_le_offset`, `offset_le_lineEnd`   the place of a position lies in its line;
* `not_splitsBreak_offset`     and not between the two characters of a break;
* `edits_stay_in_place`        what that means for an edit.
-/

namespace ElementProps

instance : LE Position where
  le p q := p.line < q.line ∨ p.line = q.line ∧ p.character ≤ q.character

theorem Position.le_iff {p q : Position} :
    p ≤ q ↔ p.line < q.line ∨ p.line = q.line ∧ p.character ≤ q.character := Iff.rfl

/-- the characters of the break of a line, if it has one -/
def Line.breakText (l : Line) : Text := (l.ending.map LineBreak.text).getD []

theorem Line.text_eq (l : Line) : l.text = l.body ++ l.breakText := by
  obtain ⟨body, _ | b⟩ := l
  · exact (List.append_nil body).symm
  · rfl

/-! ## starts of lines -/

theorem lineStart_mono (ls : List Line) {j k : Nat} (h : j ≤ k) :
    lineStart ls j ≤ lineStart ls k := by
  obtain ⟨rest, hrest⟩ := List.take_prefix_take_left (l := ls) h
  unfold lineStart
  rw [← hrest, List.flatMap_append, List.length_append]
  exact Nat.le_add_right _ _

theorem lineStart_succ {ls : List Line} {k : Nat} {l : Line} (h : ls[k]? = some l) :
    lineStart ls (k + 1) = lineStart ls k + l.text.length := by
  unfold lineStart
  rw [List.take_add_one, h, List.flatMap_append, List.length_append, Option.toList_some,
    List.flatMap_singleton]

/-- a text is the lines before a line and the lines from it on -/
theorem lines_append_lines (t : Text) (k : Nat) :
    ((linesOf t).take k).flatMap Line.text ++ ((linesOf t).drop k).flatMap Line.text = t := by
  rw [← List.flatMap_append, List.take_append_drop, linesOf_flatten]

theorem take_lineStart (t : Text) (k : Nat) :
    t.take (lineStart (linesOf t) k) = ((linesOf t).take k).flatMap Line.text := by
  calc t.take (lineStart (linesOf t) k)
      = (((linesOf t).take k).flatMap Line.text ++
          ((linesOf t).drop k).flatMap Line.text).take (lineStart (linesOf t) k) := by
        rw [lines_append_lines]
    _ = ((linesOf t).take k).flatMap Line.text := List.take_left

theorem drop_lineStart (t : Text) (k : Nat) :
    t.drop (lineStart (linesOf t) k) = ((linesOf t).drop k).flatMap Line.text := by
  calc t.drop (lineStart (linesOf t) k)
      = (((linesOf t).take k).flatMap Line.text ++
          ((linesOf t).drop k).flatMap Line.text).drop (lineStart (linesOf t) k) := by
        rw [lines_append_lines]
    _ = ((linesOf t).drop k).flatMap Line.text := List.drop_left

/-- what stands behind the body of a line -/
theorem drop_lineEnd {t : Text} {k : Nat} {l : Line} (h : (linesOf t)[k]? = some l) :
    t.drop (lineStart (linesOf t) k + l.body.length) =
      l.breakText ++ ((linesOf t).drop (k + 1)).flatMap Line.text := by
  obtain ⟨hlt, hget⟩ := List.getElem?_eq_some_iff.1 h
  rw [← List.drop_drop, drop_lineStart, List.drop_eq_getElem_cons hlt, hget, List.flatMap_cons,
    Line.text_eq, List.append_assoc, List.drop_left]

/-! ## places in lines -/

theorem reach_mono (e : Encoding) {m n : Nat} (h : m ≤ n) (t : Text) :
    e.reach m t ≤ e.reach n t := by
  induction t generalizing m n with
  | nil => exact Nat.le_refl _
  | cons c t ih =>
    rw [Encoding.reach, Encoding.reach]
    by_cases hm : m = 0
    · rw [if_pos hm]
      exact Nat.zero_le _
    · have hn : n ≠ 0 := by omega
      rw [if_neg hm, if_neg hn]
      exact Nat.add_le_add_left (ih (Nat.sub_le_sub_right h _)) 1

/-- the columns of a line grow with the character, also where they are no longer converted -/
theorem column_mono (e : Encoding) (l : Line) {m n : Nat} (h : m ≤ n) :
    l.column e m ≤ l.column e n := by
  by_cases hn : n ≤ e.units l.body
  · unfold Line.column
    rw [if_pos hn, if_pos (Nat.le_trans h hn)]
    exact reach_mono e h l.body
  · have hcolumn : l.column e n = l.body.length := if_neg hn
    rw [hcolumn]
    exact l.column_le e m

section
variable (e : Encoding) (t : Text)

theorem lineStart_le_offset (p : Position) : lineStart (linesOf t) p.line ≤ p.offset e t := by
  cases hl : (linesOf t)[p.line]? with
  | none =>
    have h := congrArg List.length (lines_append_lines t p.line)
    rw [List.length_append] at h
    rw [offset_of_no_line hl, ← h]
    exact Nat.le_add_right _ _
  | some l =>
    rw [offset_of_line hl]
    exact Nat.le_add_right _ _

variable {t}

theorem offset_le_lineEnd {p : Position} {l : Line} (h : (linesOf t)[p.line]? = some l) :
    p.offset e t ≤ lineStart (linesOf t) p.line + l.body.length := by
  rw [offset_of_line h]
  exact Nat.add_le_add_left (l.column_le e p.character) _

/-- **Places come in the order of their positions.** -/
theorem offset_mono {p q : Position} (h : p ≤ q) : p.offset e t ≤ q.offset e t := by
  cases hq : (linesOf t)[q.line]? with
  | none =>
    rw [offset_of_no_line hq]
    exact p.offset_le e t
  | some l =>
    rcases Position.le_iff.1 h with hlt | ⟨heq, hle⟩
    · -- the first place lies before the end of its line, the second not before the start of its own
      obtain ⟨hlen, -⟩ := List.getElem?_eq_some_iff.1 hq
      have hp : (linesOf t)[p.line]? = some (linesOf t)[p.line] :=
        List.getElem?_eq_getElem (by omega)
      calc p.offset e t
          ≤ lineStart (linesOf t) p.line + (linesOf t)[p.line].body.length := offset_le_lineEnd e hp
        _ ≤ lineStart (linesOf t) p.line + (linesOf t)[p.line].text.length :=
            Nat.add_le_add_left (Line.length_body_le _) _
        _ = lineStart (linesOf t) (p.line + 1) := (lineStart_succ hp).symm
        _ ≤ lineStart (linesOf t) q.line := lineStart_mono _ hlt
        _ ≤ q.offset e t := lineStart_le_offset e t q
    · have hp : (linesOf t)[p.line]? = some l := by rw [heq]; exact hq
      rw [offset_of_line hp, offset_of_line hq, heq]
      exact Nat.add_le_add_left (column_mono e l hle) _

end

/-! ## breaks -/

theorem NoBreak.not_splitsBreak {body x : Text} {o : Nat} (hbody : NoBreak body)
    (ho : o ≤ body.length) : ¬ SplitsBreak (body ++ x) o := by
  rintro ⟨hpos, hr, -⟩
  rw [List.getElem?_append_left (by omega)] at hr
  exact (hbody _ (List.mem_of_getElem? hr)).1 rfl

/-- the start of the next line splits no break, as a lone `\r` is not followed by `\n` -/
theorem LineBreak.Fits.not_splitsBreak {b : LineBreak} {rest : Text} (h : b.Fits rest)
    (body : Text) : ¬ SplitsBreak ((body ++ b.text) ++ rest) (body ++ b.text).length := by
  rintro ⟨-, hr, hn⟩
  rw [List.getElem?_append_right (Nat.le_refl _), Nat.sub_self] at hn
  have hlast : (body ++ b.text).getLast? = some '\r' := by
    have hpos := b.length_text_pos
    rw [List.getElem?_append_left (by rw [List.length_append]; omega)] at hr
    rw [List.getLast?_eq_getElem?]
    exact hr
  rw [List.getLast?_append] at hlast
  cases b with
  | crlf => exact absurd hlast (by simp [LineBreak.text])
  | lf => exact absurd hlast (by simp [LineBreak.text])
  | cr =>
    cases rest with
    | nil => exact absurd hn (by simp)
    | cons c rest => exact h rfl rest (by rw [Option.some.inj hn])

/-- **No position denotes a place inside a break.** The induction is on the lines of the text. -/
theorem not_splitsBreak_offset (e : Encoding) (t : Text) (p : Position) :
    ¬ SplitsBreak t (p.offset e t) := by
  induction t using Text.lineInduction generalizing p with
  | last body hbody =>
    have h := hbody.not_splitsBreak (x := []) (p.offset_le e body)
    rw [List.append_nil] at h
    exact h
  | line body b rest hbody hfits ih =>
    have hlines := linesOf_append hbody hfits
    have ht : body ++ (b.text ++ rest) = Line.text ⟨body, some b⟩ ++ rest :=
      (List.append_assoc _ _ _).symm
    obtain ⟨line, character⟩ := p
    cases line with
    | zero =>
      rw [offset_zero_eq hlines]
      exact hbody.not_splitsBreak (Line.column_le e ⟨body, some b⟩ character)
    | succ line =>
      rw [offset_succ_eq hlines ht, ht]
      intro hsplit
      rcases Nat.eq_zero_or_pos (Position.offset e rest ⟨line, character⟩) with h0 | hpos
      · rw [h0] at hsplit
        exact hfits.not_splitsBreak body hsplit
      · exact ih ⟨line, character⟩ ((splitsBreak_append_iff hpos).1 hsplit)

/-! ## edits -/

/-- **Edits stay where they are addressed.** In every encoding, places come in the order of their
positions, and each lies in the line of its position before the break, or at the end of the text
when there is no such line. So an edit whose positions are in order replaces what stands between
their places, keeps the lines before the first position and everything from the break of the line of
the last one on, and neither keeps nor removes a half of a `\r\n`. -/
theorem edits_stay_in_place (e : Encoding) (t : Text) :
    (∀ p : Position, p.offset e t = cursorOffset t p.line (p.converted e t)) ∧
    (∀ p q : Position, p ≤ q → p.offset e t ≤ q.offset e t) ∧
    (∀ (p : Position) (l : Line), (linesOf t)[p.line]? = some l →
      lineStart (linesOf t) p.line ≤ p.offset e t ∧
      p.offset e t ≤ lineStart (linesOf t) p.line + l.body.length) ∧
    (∀ p : Position, (linesOf t).length ≤ p.line → p.offset e t = t.length) ∧
    (∀ (p q : Position) (text : Text), p ≤ q →
      (Edit.ranged p q text).apply e t =
        t.take (p.offset e t) ++ text ++ t.drop (q.offset e t) ∧
      ((linesOf t).take p.line).flatMap Line.text <+: (Edit.ranged p q text).apply e t ∧
      (∀ l, (linesOf t)[q.line]? = some l →
        l.breakText ++ ((linesOf t).drop (q.line + 1)).flatMap Line.text <:+
          (Edit.ranged p q text).apply e t) ∧
      (∀ i, t[i]? = some '\r' → t[i + 1]? = some '\n' →
        i + 2 ≤ p.offset e t ∨ (p.offset e t ≤ i ∧ i + 2 ≤ q.offset e t) ∨ q.offset e t ≤ i)) := by
  refine ⟨offset_eq_converted e t, fun p q h => offset_mono e h, ?_, ?_, ?_⟩
  · intro p l hl
    exact ⟨lineStart_le_offset e t p, offset_le_lineEnd e hl⟩
  · intro p hline
    exact offset_of_no_line (List.getElem?_eq_none hline)
  · intro p q text hpq
    have hle := offset_mono e (t := t) hpq
    have happly : (Edit.ranged p q text).apply e t =
        t.take (p.offset e t) ++ text ++ t.drop (q.offset e t) := by
      show t.take (p.offset e t) ++ text ++ t.drop (max (p.offset e t) (q.offset e t)) = _
      rw [Nat.max_eq_right hle]
    refine ⟨happly, ?_, ?_, ?_⟩
    · rw [happly, ← take_lineStart, List.append_assoc]
      exact (List.take_prefix_take_left (lineStart_le_offset e t p)).trans
        (List.prefix_append _ _)
    · intro l hl
      rw [happly, ← drop_lineEnd hl]
      exact (List.drop_suffix_drop_left t (offset_le_lineEnd e hl)).trans (List.suffix_append _ _)
    · intro i hr hn
      have hsplit : SplitsBreak t (i + 1) := ⟨Nat.succ_pos i, hr, hn⟩
      have hp : p.offset e t ≠ i + 1 := fun h => not_splitsBreak_offset e t p (h ▸ hsplit)
      have hq : q.offset e t ≠ i + 1 := fun h => not_splitsBreak_offset e t q (h ▸ hsplit)
      omega

/-- in UTF-8 a step over an astral character goes too far; a break in the range is removed whole -/
theorem edits_stay_in_place_utf8 :
    (⟨0, 2⟩ : Position) ≤ ⟨1, 0⟩ ∧
    Position.offset .utf8 "😀a\r\nb".toList ⟨0, 2⟩ = 1 ∧
    Position.offset .utf8 "😀a\r\nb".toList ⟨1, 0⟩ = 4 ∧
    (Edit.ranged ⟨0, 2⟩ ⟨1, 0⟩ "x".toList).apply .utf8 "😀a\r\nb".toList = "😀xb".toList ∧
    (2 + 2 ≤ 1 ∨ (1 ≤ 2 ∧ 2 + 2 ≤ 4) ∨ 4 ≤ 2) := by
  have hle : (⟨0, 2⟩ : Position) ≤ ⟨1, 0⟩ := Or.inl Nat.one_pos
  have hp : Position.offset .utf8 "😀a\r\nb".toList ⟨0, 2⟩ = 1 := by decide
  have hq : Position.offset .utf8 "😀a\r\nb".toList ⟨1, 0⟩ = 4 := by decide
  obtain ⟨happly, -, -, hpair⟩ :=
    (edits_stay_in_place .utf8 "😀a\r\nb".toList).2.2.2.2 ⟨0, 2⟩ ⟨1, 0⟩ "x".toList hle
  have hbreak := hpair 2 (by decide) (by decide)
  rw [hp, hq] at happly hbreak
  exact ⟨hle, hp, hq, happly, hbreak⟩

end ElementProps

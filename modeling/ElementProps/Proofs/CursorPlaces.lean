import Mathlib.Data.List.Basic
import Mathlib.Data.Prod.Lex
import Mathlib.Data.Set.Function
import Mathlib.Order.Monotone.Basic
import ElementProps.Proofs.EditPlacement

/-!
# The places of a cursor

A cursor is a line and a character, and both may be any integers. Some cursors are places of the
text: those in a line up to its break, and the start of the empty line that follows a final break.
Their offsets come in the order of the places and are all offsets but those inside a `\r\n`. Any
other cursor has the offset of the place to which it is moved.

* `Cursor`                       in the order of lines, and in a line of characters;
* `EndsInEmptyLine t`            one more line, an empty one, follows the lines of the text;
* `Cursor.IsPlace t p`           the cursor is a place of the text;
* `Cursor.last t`                the place at the end of the text;
* `Cursor.clamp t p`             the place to which a cursor is moved;
* `exists_ending`                a line with a line behind it has a break;
* `strictMonoOn_offset`          offsets come in the order of the places;
* `bijOn_offset`                 each offset outside of a `\r\n` is that of one place;
* `cursors_denote_places`        what every cursor denotes.
-/

namespace ElementProps

/-! ## cursors -/

@[ext] structure Cursor where
  line : Int
  character : Int
  deriving DecidableEq, Repr

namespace Cursor

instance : LinearOrder Cursor :=
  LinearOrder.lift' (fun p => toLex (p.line, p.character)) (by
    intro p q h
    obtain ⟨hline, hcharacter⟩ := Prod.mk.inj (toLex_inj.1 h)
    exact Cursor.ext hline hcharacter)

theorem lt_iff {p q : Cursor} :
    p < q ↔ p.line < q.line ∨ p.line = q.line ∧ p.character < q.character :=
  Prod.Lex.toLex_lt_toLex

/-- the offset of a cursor -/
def offset (t : Text) (p : Cursor) : Nat := cursorOffset t p.line p.character

end Cursor

/-- behind a final break, and in the empty text, one more line can be addressed -/
def EndsInEmptyLine (t : Text) : Prop :=
  t = [] ∨ t.getLast? = some '\r' ∨ t.getLast? = some '\n'

instance (t : Text) : Decidable (EndsInEmptyLine t) := inferInstanceAs (Decidable (_ ∨ _ ∨ _))

namespace Cursor

/-- the places of a text -/
inductive IsPlace (t : Text) : Cursor → Prop where
  | inLine {i c : Nat} {l : Line} (hl : (linesOf t)[i]? = some l) (hc : c ≤ l.body.length) :
      IsPlace t ⟨i, c⟩
  | behind (h : EndsInEmptyLine t) : IsPlace t ⟨(linesOf t).length, 0⟩

/-- the place at the end of the text: the end of a last line without a break, or the empty line -/
def last (t : Text) : Cursor :=
  match (linesOf t).getLast? with
  | some ⟨body, none⟩ => ⟨((linesOf t).length - 1 : Nat), body.length⟩
  | _ => ⟨(linesOf t).length, 0⟩

/-- A character outside of its line is moved to the nearer end of the line, and a line that does not
exist to the end of the text. -/
def clamp (t : Text) (p : Cursor) : Cursor :=
  if p.line < 0 then last t
  else
    match (linesOf t)[p.line.toNat]? with
    | none => last t
    | some l => ⟨p.line, max 0 (min p.character l.body.length)⟩

end Cursor

/-! ## ends of lines -/

theorem NoBreak.not_endsInEmptyLine {body : Text} (h : NoBreak body) (hne : body ≠ []) :
    ¬ EndsInEmptyLine body := by
  rintro (hnil | hr | hn)
  · exact hne hnil
  · exact (h _ (List.mem_of_getLast? hr)).1 rfl
  · exact (h _ (List.mem_of_getLast? hn)).2 rfl

theorem endsInEmptyLine_text (x : Text) (b : LineBreak) : EndsInEmptyLine (x ++ b.text) := by
  cases b <;> simp [EndsInEmptyLine, LineBreak.text]

theorem EndsInEmptyLine.of_append {x rest : Text} (h : EndsInEmptyLine (x ++ rest)) :
    EndsInEmptyLine rest := by
  by_cases hne : rest = []
  · exact Or.inl hne
  · rcases h with hnil | h
    · exact absurd (List.append_eq_nil_iff.1 hnil).2 hne
    · rw [List.getLast?_append_of_ne_nil x hne] at h
      exact Or.inr h

/-- A line has a break if there is a line behind it, the empty one included. The induction is on the
lines of the text. -/
theorem exists_ending {t : Text} {k : Nat} {l : Line} (hl : (linesOf t)[k]? = some l)
    (h : k + 1 < (linesOf t).length ∨ EndsInEmptyLine t) : ∃ b, l.ending = some b := by
  induction t using Text.lineInduction generalizing k with
  | last body hbody =>
    by_cases hne : body = []
    · rw [hne] at hl
      exact absurd hl (by simp [linesOf])
    · rcases h with hk | hend
      · rw [linesOf_noBreak hbody hne, List.length_singleton] at hk
        omega
      · exact absurd hend (hbody.not_endsInEmptyLine hne)
  | line body b rest hbody hfits ih =>
    rw [linesOf_append hbody hfits] at hl h
    cases k with
    | zero =>
      obtain rfl := Option.some.inj hl
      exact ⟨b, rfl⟩
    | succ k =>
      apply ih hl
      rcases h with hk | hend
      · exact Or.inl (Nat.lt_of_succ_lt_succ hk)
      · exact Or.inr hend.of_append.of_append

theorem lineStart_length (t : Text) : lineStart (linesOf t) (linesOf t).length = t.length := by
  unfold lineStart
  rw [List.take_length, linesOf_flatten]

/-- the end of a line with a line behind it lies before the start of that line -/
theorem lineEnd_lt_lineStart {t : Text} {i j : Nat} {l : Line} (hl : (linesOf t)[i]? = some l)
    (hij : i < j) (h : i + 1 < (linesOf t).length ∨ EndsInEmptyLine t) :
    lineStart (linesOf t) i + l.body.length < lineStart (linesOf t) j := by
  obtain ⟨b, hb⟩ := exists_ending hl h
  have hpos := b.length_text_pos
  have htext : l.text.length = l.body.length + b.text.length := by
    rw [Line.text_eq, List.length_append, Line.breakText, hb]
    rfl
  calc lineStart (linesOf t) i + l.body.length
      < lineStart (linesOf t) i + l.text.length := by omega
    _ = lineStart (linesOf t) (i + 1) := (lineStart_succ hl).symm
    _ ≤ lineStart (linesOf t) j := lineStart_mono _ hij

/-! ## offsets of cursors -/

namespace Cursor

section
variable {t : Text} {p q : Cursor}

theorem outside_or_line (t : Text) (p : Cursor) :
    (p.line < 0 ∨ (linesOf t).length ≤ p.line) ∨
      ∃ (i : Nat) (l : Line), p.line = i ∧ (linesOf t)[i]? = some l := by
  by_cases h : p.line < 0 ∨ (linesOf t).length ≤ p.line
  · exact Or.inl h
  · have hlt : p.line.toNat < (linesOf t).length := by omega
    exact Or.inr ⟨p.line.toNat, _, by omega, List.getElem?_eq_getElem hlt⟩

theorem getElem?_outside (h : (linesOf t).length ≤ p.line) : (linesOf t)[p.line.toNat]? = none :=
  List.getElem?_eq_none (by omega)

theorem offset_outside (h : p.line < 0 ∨ (linesOf t).length ≤ p.line) : offset t p = t.length := by
  unfold offset cursorOffset
  rcases h with hneg | hlen
  · exact if_pos hneg
  · rw [if_neg (by omega)]
    simp only [getElem?_outside hlen]

theorem offset_of_line {i : Nat} {l : Line} (hl : (linesOf t)[i]? = some l) (c : Int) :
    offset t ⟨i, c⟩ = lineStart (linesOf t) i + min c.toNat l.body.length := by
  show cursorOffset t i c = _
  unfold cursorOffset
  rw [if_neg (by omega)]
  simp only [Int.toNat_natCast, hl]

theorem offset_inLine {i c : Nat} {l : Line} (hl : (linesOf t)[i]? = some l)
    (hc : c ≤ l.body.length) : offset t ⟨i, c⟩ = lineStart (linesOf t) i + c := by
  rw [offset_of_line hl, Int.toNat_natCast, Nat.min_eq_left hc]

theorem offset_behind (t : Text) : offset t ⟨(linesOf t).length, 0⟩ = t.length :=
  offset_outside (Or.inr (Int.le_refl _))

/-! ## the order of places -/

theorem lineStart_le_offset (hq : IsPlace t q) :
    lineStart (linesOf t) q.line.toNat ≤ offset t q := by
  cases hq with
  | inLine hl hc =>
    rw [offset_inLine hl hc]
    exact Nat.le_add_right _ _
  | behind _ =>
    rw [offset_behind]
    exact Nat.le_of_eq (lineStart_length t)

/-- a line before the line of a place has a line behind it -/
theorem IsPlace.line_behind (hq : IsPlace t q) {i : Nat} (h : i < q.line) :
    i + 1 < (linesOf t).length ∨ EndsInEmptyLine t := by
  cases hq with
  | @inLine j _ _ hl _ =>
    obtain ⟨hlt, -⟩ := List.getElem?_eq_some_iff.1 hl
    have hij : i < j := Int.ofNat_lt.1 h
    exact Or.inl (by omega)
  | behind hend => exact Or.inr hend

theorem IsPlace.le_behind (hq : IsPlace t q) : q ≤ ⟨(linesOf t).length, 0⟩ := by
  cases hq with
  | inLine hl _ =>
    obtain ⟨hlt, -⟩ := List.getElem?_eq_some_iff.1 hl
    exact le_of_lt (lt_iff.2 (Or.inl (Int.ofNat_lt.2 hlt)))
  | behind _ => exact le_rfl

/-- **Offsets come in the order of the places.** Between the end of a line and the start of a later
one there is a break. -/
theorem strictMonoOn_offset (t : Text) : StrictMonoOn (offset t) {p | IsPlace t p} := by
  intro p hp q hq h
  cases hp with
  | inLine hl hc =>
    rw [offset_inLine hl hc]
    rcases lt_iff.1 h with hline | ⟨hline, hcharacter⟩
    · have hend := lineEnd_lt_lineStart hl (Int.lt_toNat.2 hline) (hq.line_behind hline)
      have hstart := lineStart_le_offset hq
      omega
    · cases hq with
      | inLine hl' hc' =>
        obtain rfl := Int.ofNat.inj hline
        rw [offset_inLine hl' hc']
        exact Nat.add_lt_add_left (Int.ofNat_lt.1 hcharacter) _
      | behind _ =>
        obtain rfl := Int.ofNat.inj hline
        exact absurd hl (by simp)
  | behind _ => exact absurd h (not_lt_of_ge (IsPlace.le_behind hq))

end

/-! ## moving a cursor -/

section
variable (t : Text)

theorem isPlace_last : IsPlace t (last t) := by
  unfold last
  split
  · next body hlast =>
    rw [List.getLast?_eq_getElem?] at hlast
    exact IsPlace.inLine hlast (Nat.le_refl _)
  · next hlast =>
    apply IsPlace.behind
    cases hl : (linesOf t).getLast? with
    | none =>
      have hflat := linesOf_flatten t
      rw [List.getLast?_eq_none_iff.1 hl] at hflat
      exact Or.inl hflat.symm
    | some l =>
      obtain ⟨body, _ | b⟩ := l
      · exact absurd hl (hlast body)
      · obtain ⟨ls, hls⟩ := List.getLast?_eq_some_iff.1 hl
        rw [← linesOf_flatten t, hls, List.flatMap_append, List.flatMap_singleton, Line.text_some,
          ← List.append_assoc]
        exact endsInEmptyLine_text _ b

theorem offset_last : offset t (last t) = t.length := by
  unfold last
  split
  · next body hlast =>
    have hpos : 0 < (linesOf t).length := by
      obtain ⟨ls, hls⟩ := List.getLast?_eq_some_iff.1 hlast
      rw [hls, List.length_append]
      exact Nat.succ_pos _
    rw [List.getLast?_eq_getElem?] at hlast
    calc offset t ⟨((linesOf t).length - 1 : Nat), body.length⟩
        = lineStart (linesOf t) ((linesOf t).length - 1) + body.length :=
          offset_inLine hlast (Nat.le_refl _)
      _ = lineStart (linesOf t) ((linesOf t).length - 1 + 1) := (lineStart_succ hlast).symm
      _ = t.length := by rw [Nat.sub_add_cancel hpos, lineStart_length]
  · exact offset_behind t

variable {t} {p : Cursor}

theorem clamp_outside (h : p.line < 0 ∨ (linesOf t).length ≤ p.line) : clamp t p = last t := by
  unfold clamp
  rcases h with hneg | hlen
  · exact if_pos hneg
  · rw [if_neg (by omega)]
    simp only [getElem?_outside hlen]

theorem clamp_of_line {i : Nat} {l : Line} (hl : (linesOf t)[i]? = some l) (c : Int) :
    clamp t ⟨i, c⟩ = ⟨i, (min c.toNat l.body.length : Nat)⟩ := by
  have hclamp : clamp t ⟨i, c⟩ = ⟨i, max 0 (min c l.body.length)⟩ := by
    unfold clamp
    rw [if_neg (Int.not_lt.2 (Int.natCast_nonneg i))]
    simp only [Int.toNat_natCast, hl]
  rw [hclamp]
  congr 1
  omega

variable (t p)

theorem isPlace_clamp : IsPlace t (clamp t p) := by
  rcases outside_or_line t p with hout | ⟨i, l, hline, hl⟩
  · rw [clamp_outside hout]
    exact isPlace_last t
  · obtain ⟨line, c⟩ := p
    obtain rfl : line = i := hline
    rw [clamp_of_line hl]
    exact IsPlace.inLine hl (Nat.min_le_right _ _)

theorem offset_clamp : offset t (clamp t p) = offset t p := by
  rcases outside_or_line t p with hout | ⟨i, l, hline, hl⟩
  · rw [clamp_outside hout, offset_last, offset_outside hout]
  · obtain ⟨line, c⟩ := p
    obtain rfl : line = i := hline
    rw [clamp_of_line hl, offset_inLine hl (Nat.min_le_right _ _), offset_of_line hl]

end

/-! ## the offsets of places -/

section
variable {t : Text} {p : Cursor}

/-- a place has a position in UTF-16 -/
theorem IsPlace.exists_position (hp : IsPlace t p) :
    ∃ q : Position, q.offset .utf16 t = offset t p := by
  cases hp with
  | @inLine i c l hl hc =>
    refine ⟨⟨i, Encoding.utf16.units (l.body.take c)⟩, ?_⟩
    rw [ElementProps.offset_of_line hl, offset_inLine hl hc, Line.column,
      if_pos (units_take_le .utf16 l.body c)]
    exact congrArg _ (reach_units_take hc)
  | behind _ =>
    refine ⟨⟨(linesOf t).length, 0⟩, ?_⟩
    rw [offset_behind]
    exact offset_of_no_line (List.getElem?_eq_none (Nat.le_refl _))

/-- **Every offset outside of a `\r\n` is that of one place.** The place of an offset is that of its
position in UTF-16, whose character is converted and then clamped. -/
theorem bijOn_offset (t : Text) :
    Set.BijOn (offset t) {p | IsPlace t p} {o | o ≤ t.length ∧ ¬ SplitsBreak t o} := by
  refine ⟨?_, (strictMonoOn_offset t).injOn, ?_⟩
  · intro p hp
    obtain ⟨q, hq⟩ := IsPlace.exists_position hp
    refine ⟨cursorOffset_le t p.line p.character, ?_⟩
    rw [← hq]
    exact not_splitsBreak_offset .utf16 t q
  · rintro o ⟨ho, hsplit⟩
    let q := Position.ofOffset t o
    refine ⟨clamp t ⟨q.line, q.converted .utf16 t⟩, isPlace_clamp t _, ?_⟩
    rw [offset_clamp]
    show cursorOffset t q.line (q.converted .utf16 t) = o
    rw [← offset_eq_converted]
    exact offset_ofOffset ho hsplit

/-- the places are the cursors that need not be moved -/
theorem isPlace_iff_clamp_eq : IsPlace t p ↔ clamp t p = p := by
  constructor
  · intro hp
    exact (strictMonoOn_offset t).injOn (isPlace_clamp t p) hp (offset_clamp t p)
  · intro h
    rw [← h]
    exact isPlace_clamp t p

instance (t : Text) (p : Cursor) : Decidable (IsPlace t p) :=
  decidable_of_iff (clamp t p = p) isPlace_iff_clamp_eq.symm

end

/-! ## what cursors denote -/

/-- **A cursor denotes a place, and the places are the offsets outside of a `\r\n`.** No offset lies
behind the text. On the places of the text offsets are strictly increasing, and they take each value
once that does not lie inside a `\r\n`. Every cursor has the offset of the place to which it is
moved, and the places are not moved; the last place has that of the end of the text. -/
theorem cursors_denote_places (t : Text) :
    (∀ line character : Int, cursorOffset t line character ≤ t.length) ∧
    StrictMonoOn (offset t) {p | IsPlace t p} ∧
    Set.BijOn (offset t) {p | IsPlace t p} {o | o ≤ t.length ∧ ¬ SplitsBreak t o} ∧
    (∀ p, IsPlace t (clamp t p) ∧ offset t (clamp t p) = offset t p) ∧
    (∀ p, IsPlace t p ↔ clamp t p = p) ∧
    offset t (last t) = t.length := by
  refine ⟨cursorOffset_le t, strictMonoOn_offset t, bijOn_offset t, ?_, ?_, offset_last t⟩
  · exact fun p => ⟨isPlace_clamp t p, offset_clamp t p⟩
  · exact fun p => isPlace_iff_clamp_eq

/-- the first line ends before its `\r\n`, and behind the last break there is a line 3; a line
before the first one is the end of the text -/
theorem cursors_denote_places_breaks :
    IsPlace "a\r\n\rb\n".toList ⟨0, 1⟩ ∧ IsPlace "a\r\n\rb\n".toList ⟨3, 0⟩ ∧
    offset "a\r\n\rb\n".toList ⟨0, 1⟩ < offset "a\r\n\rb\n".toList ⟨3, 0⟩ ∧
    ¬ SplitsBreak "a\r\n\rb\n".toList (offset "a\r\n\rb\n".toList ⟨0, 1⟩) ∧
    clamp "a\r\n\rb\n".toList ⟨3, 0⟩ = ⟨3, 0⟩ ∧
    clamp "a\r\n\rb\n".toList ⟨-1, 7⟩ = ⟨3, 0⟩ ∧
    offset "a\r\n\rb\n".toList ⟨-1, 7⟩ = 6 := by
  obtain ⟨-, hmono, hbij, hclamp, hplace, -⟩ := cursors_denote_places "a\r\n\rb\n".toList
  have hp : IsPlace "a\r\n\rb\n".toList ⟨0, 1⟩ := by decide
  have hq : IsPlace "a\r\n\rb\n".toList ⟨3, 0⟩ := by decide
  have hlt : (⟨0, 1⟩ : Cursor) < ⟨3, 0⟩ := lt_iff.2 (Or.inl (by decide))
  have hfar : clamp "a\r\n\rb\n".toList ⟨-1, 7⟩ = ⟨3, 0⟩ := by decide
  refine ⟨hp, hq, hmono hp hq hlt, (hbij.mapsTo hp).2, (hplace _).1 hq, hfar, ?_⟩
  rw [← (hclamp ⟨-1, 7⟩).2, hfar]
  decide

end Cursor

end ElementProps

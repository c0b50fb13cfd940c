import ElementProps.Proofs.ClientBuffer
import ElementProps.Proofs.LineBreaks

/-!
# The places that positions denote

A client's position is taken in two stages. Its character is first converted from units to
characters, by a walk over the line with its break, unless the line has fewer units than that; then
it is clamped to the line in characters. In UTF-16 the two stages together find the first place of
the line that has at least as many units before it, and every place is found by its own position.

* `Position.converted`          the first stage; the break takes part in the walk;
* `offset_eq_converted`         both stages come to the offset of a position;
* `reach_eq_of_least`           in UTF-16 the walk stops at the first place with enough units;
* `SplitsBreak t o`             the offset lies between the two characters of a break;
* `Position.ofOffset t o`       the position of an offset, in UTF-16;
* `utf16_positions_decoded`     what a position denotes, and that encoding an offset is undone.
-/

namespace ElementProps

/-! ## the two stages -/

/-- the characters over which the walk goes: the break `\r\n` counts as one character -/
def Line.walked (l : Line) : Text :=
  l.body ++ (l.ending.map fun b => if b = .cr then '\r' else '\n').toList

/-- the character of a position, converted if its line has that many units -/
def Position.converted (e : Encoding) (t : Text) (p : Position) : Nat :=
  match (linesOf t)[p.line]? with
  | none => p.character
  | some l => if p.character ≤ e.units l.body then e.reach p.character l.walked else p.character

theorem length_le_units (e : Encoding) (t : Text) : t.length ≤ e.units t := by
  induction t with
  | nil => exact Nat.le_refl _
  | cons c t ih =>
    have hpos : 1 ≤ if isAstral c then e.length else 1 := by
      split
      · cases e <;> decide
      · exact Nat.le_refl _
    rw [Encoding.units_cons, List.length_cons]
    omega

/-- what follows a text moves the end of a walk only past the text -/
theorem min_reach_append (e : Encoding) (n : Nat) (x y : Text) :
    min (e.reach n (x ++ y)) x.length = e.reach n x := by
  induction x generalizing n with
  | nil => exact Nat.min_zero _
  | cons c x ih =>
    rw [List.cons_append, Encoding.reach, Encoding.reach, List.length_cons]
    split
    · exact Nat.zero_min _
    · have h := ih (n - if isAstral c then e.stride else 1)
      omega

section
variable {e : Encoding} {t : Text} {p : Position}

theorem offset_of_line {l : Line} (h : (linesOf t)[p.line]? = some l) :
    p.offset e t = lineStart (linesOf t) p.line + l.column e p.character := by
  unfold Position.offset
  simp only [h]

theorem offset_of_no_line (h : (linesOf t)[p.line]? = none) : p.offset e t = t.length := by
  unfold Position.offset
  simp only [h]

theorem offset_eq_converted (e : Encoding) (t : Text) (p : Position) :
    p.offset e t = cursorOffset t p.line (p.converted e t) := by
  unfold cursorOffset Position.converted
  rw [if_neg (by omega)]
  simp only [Int.toNat_natCast]
  cases hl : (linesOf t)[p.line]? with
  | none => exact offset_of_no_line hl
  | some l =>
    rw [offset_of_line hl]
    show _ + _ = _ + min (if _ then _ else _) _
    congr 1
    unfold Line.column Line.walked
    split
    · exact (min_reach_append e p.character l.body _).symm
    · next hgt =>
      have hle := length_le_units e l.body
      omega

end

/-! ## the first place with enough units -/

section
variable {n : Nat} {t : Text}

theorem units_take_lt {j : Nat} (h : j < Encoding.utf16.reach n t) :
    Encoding.utf16.units (t.take j) < n := by
  induction t generalizing n j with
  | nil => exact absurd h (Nat.not_lt_zero j)
  | cons c t ih =>
    rw [Encoding.reach] at h
    split at h
    · exact absurd h (Nat.not_lt_zero j)
    · cases j with
      | zero =>
        show 0 < n
        omega
      | succ j =>
        -- in UTF-16 the length of a character is the step over it
        have hrest : Encoding.utf16.units (t.take j) <
            n - if isAstral c then Encoding.utf16.stride else 1 := by
          apply ih
          omega
        rw [List.take_succ_cons, Encoding.units_cons]
        show (if isAstral c then Encoding.utf16.stride else 1) + Encoding.utf16.units (t.take j) < n
        omega

theorem le_units_take_reach (h : n ≤ Encoding.utf16.units t) :
    n ≤ Encoding.utf16.units (t.take (Encoding.utf16.reach n t)) := by
  induction t generalizing n with
  | nil => exact h
  | cons c t ih =>
    rw [Encoding.reach]
    split
    · next h0 =>
      rw [h0]
      exact Nat.zero_le _
    · replace h : n ≤ (if isAstral c then Encoding.utf16.stride else 1)
          + Encoding.utf16.units t := h
      have hrest := ih (n := n - if isAstral c then Encoding.utf16.stride else 1) (by omega)
      rw [Nat.add_comm 1, List.take_succ_cons, Encoding.units_cons]
      show n ≤ (if isAstral c then Encoding.utf16.stride else 1) + Encoding.utf16.units _
      omega

theorem units_take_le (e : Encoding) (t : Text) (k : Nat) : e.units (t.take k) ≤ e.units t := by
  induction t generalizing k with
  | nil => exact Nat.le_of_eq (congrArg e.units List.take_nil)
  | cons c t ih =>
    cases k with
    | zero => exact Nat.zero_le _
    | succ k =>
      have hrest := ih k
      rw [List.take_succ_cons, Encoding.units_cons, Encoding.units_cons]
      omega

theorem reach_eq_of_least {k : Nat} (hk : n ≤ Encoding.utf16.units (t.take k))
    (hleast : ∀ j < k, Encoding.utf16.units (t.take j) < n) : Encoding.utf16.reach n t = k := by
  have hall : n ≤ Encoding.utf16.units t := Nat.le_trans hk (units_take_le .utf16 t k)
  have hreach := le_units_take_reach hall
  rcases Nat.lt_trichotomy (Encoding.utf16.reach n t) k with hlt | heq | hgt
  · have hless := hleast _ hlt
    omega
  · exact heq
  · have hless := units_take_lt hgt
    omega

end

theorem column_of_least {l : Line} {character k : Nat}
    (hk : character ≤ (encode16 (l.body.take k)).length)
    (hleast : ∀ j < k, (encode16 (l.body.take j)).length < character) :
    l.column .utf16 character = k := by
  simp only [length_encode16] at hk hleast
  unfold Line.column
  rw [if_pos (Nat.le_trans hk (units_take_le .utf16 l.body k))]
  exact reach_eq_of_least hk hleast

theorem column_of_none {l : Line} {character : Nat}
    (h : ∀ k ≤ l.body.length, (encode16 (l.body.take k)).length < character) :
    l.column .utf16 character = l.body.length := by
  have hall := h l.body.length (Nat.le_refl _)
  rw [List.take_length, length_encode16] at hall
  unfold Line.column
  rw [if_neg (Nat.not_le.2 hall)]

/-! ## the position of an offset -/

/-- between the two characters of a `\r\n` -/
def SplitsBreak (t : Text) (o : Nat) : Prop :=
  0 < o ∧ t[o - 1]? = some '\r' ∧ t[o]? = some '\n'

instance (t : Text) (o : Nat) : Decidable (SplitsBreak t o) :=
  inferInstanceAs (Decidable (_ ∧ _ ∧ _))

def countBreaks : Text → Nat
  | [] => 0
  | '\r' :: '\n' :: t => countBreaks t + 1
  | '\r' :: t => countBreaks t + 1
  | '\n' :: t => countBreaks t + 1
  | _ :: t => countBreaks t

/-- The position of an offset: the line breaks before it, and the UTF-16 units from the start of
its line. -/
def Position.ofOffset (t : Text) (o : Nat) : Position where
  line := countBreaks (t.take o)
  character := (encode16 (slice t (lineStart (linesOf t) (countBreaks (t.take o))) o)).length

theorem countBreaks_noBreak_append {x : Text} (hx : NoBreak x) (t : Text) :
    countBreaks (x ++ t) = countBreaks t := by
  induction x with
  | nil => rfl
  | cons c x ih =>
    obtain ⟨hr, hn⟩ := hx c List.mem_cons_self
    rw [List.cons_append, countBreaks, ih fun d hd => hx d (List.mem_cons_of_mem c hd)]
    · exact fun _ h _ => hr h
    · exact hr
    · exact hn

theorem countBreaks_noBreak {x : Text} (hx : NoBreak x) : countBreaks x = 0 := by
  have h := countBreaks_noBreak_append hx []
  rw [List.append_nil] at h
  exact h

theorem countBreaks_append {body : Text} (hbody : NoBreak body) {b : LineBreak} {rest : Text}
    (hfits : b.Fits rest) : countBreaks (body ++ (b.text ++ rest)) = countBreaks rest + 1 := by
  rw [countBreaks_noBreak_append hbody]
  cases b with
  | crlf => rfl
  | lf => rfl
  | cr =>
    show countBreaks ('\r' :: rest) = _
    rw [countBreaks]
    exact fun r hr => hfits rfl r hr

theorem linesOf_noBreak {body : Text} (hbody : NoBreak body) (hne : body ≠ []) :
    linesOf body = [⟨body, none⟩] := by
  induction body with
  | nil => exact absurd rfl hne
  | cons c body ih =>
    obtain ⟨hr, hn⟩ := hbody c List.mem_cons_self
    rw [linesOf_cons hr hn]
    cases body with
    | nil => rfl
    | cons d body =>
      rw [ih (fun x hx => hbody x (List.mem_cons_of_mem c hx)) (List.cons_ne_nil d body)]
      rfl

/-- a place in the first line is found by its own position -/
theorem offset_ofOffset_firstLine {t rest : Text} {l : Line} {o : Nat} (hbody : NoBreak l.body)
    (hlines : linesOf t = l :: linesOf rest) (ht : t = l.text ++ rest) (ho : o ≤ l.body.length) :
    (Position.ofOffset t o).offset .utf16 t = o := by
  have htake : t.take o = l.body.take o := by rw [ht, take_body l rest ho]
  have hpos : Position.ofOffset t o = ⟨0, Encoding.utf16.units (l.body.take o)⟩ := by
    unfold Position.ofOffset
    rw [htake, countBreaks_noBreak (hbody.take o), lineStart_zero]
    show Position.mk 0 (encode16 (t.take o)).length = _
    rw [htake, length_encode16]
  rw [hpos, offset_zero_eq hlines, Line.column, if_pos (units_take_le _ _ _)]
  exact reach_units_take ho

/-- the position of a place in a later line counts from there -/
theorem ofOffset_nextLine {body rest : Text} {b : LineBreak} (hbody : NoBreak body)
    (hfits : b.Fits rest) (o : Nat) :
    Position.ofOffset (body ++ (b.text ++ rest)) (body.length + (b.text.length + o)) =
      ⟨(Position.ofOffset rest o).line + 1, (Position.ofOffset rest o).character⟩ := by
  have htake : (body ++ (b.text ++ rest)).take (body.length + (b.text.length + o)) =
      body ++ (b.text ++ rest.take o) := by
    rw [List.take_length_add_append, List.take_length_add_append]
  have hcount := countBreaks_append hbody (hfits.take o)
  unfold Position.ofOffset
  rw [htake, hcount, linesOf_append hbody hfits, lineStart_succ_cons, Line.text_some,
    List.length_append, Nat.add_assoc]
  show Position.mk _ (encode16 ((_ : Text).drop _)).length = _
  rw [htake, List.drop_length_add_append, List.drop_length_add_append]
  rfl

/-- behind the first character of a text, what stands before the text makes no difference -/
theorem splitsBreak_append_iff {x t : Text} {o : Nat} (ho : 0 < o) :
    SplitsBreak (x ++ t) (x.length + o) ↔ SplitsBreak t o := by
  have hr : (x ++ t)[x.length + o - 1]? = t[o - 1]? := by
    rw [Nat.add_sub_assoc ho, List.getElem?_append_right (Nat.le_add_right _ _),
      Nat.add_sub_cancel_left]
  have hn : (x ++ t)[x.length + o]? = t[o]? := by
    rw [List.getElem?_append_right (Nat.le_add_right _ _), Nat.add_sub_cancel_left]
  unfold SplitsBreak
  rw [hr, hn]
  exact and_congr (by omega) Iff.rfl

theorem le_of_not_splitsBreak {body rest : Text} {b : LineBreak} {o : Nat}
    (ho : body.length < o) (h : ¬ SplitsBreak (body ++ (b.text ++ rest)) o) :
    body.length + b.text.length ≤ o := by
  cases b with
  | cr => exact ho
  | lf => exact ho
  | crlf =>
    show body.length + 2 ≤ o
    by_cases hin : o = body.length + 1
    · have hsplit : SplitsBreak ('\r' :: '\n' :: rest) 1 := ⟨Nat.one_pos, rfl, rfl⟩
      rw [hin] at h
      exact absurd ((splitsBreak_append_iff Nat.one_pos).2 hsplit) h
    · omega

/-- **Encoding an offset is undone.** The induction is on the lines of the text. -/
theorem offset_ofOffset {t : Text} {o : Nat} (ho : o ≤ t.length) (h : ¬ SplitsBreak t o) :
    (Position.ofOffset t o).offset .utf16 t = o := by
  induction t using Text.lineInduction generalizing o with
  | last body hbody =>
    cases body with
    | nil =>
      rw [Nat.le_zero.1 ho]
      rfl
    | cons c body =>
      have hlines : linesOf (c :: body) = ⟨c :: body, none⟩ :: linesOf [] :=
        linesOf_noBreak hbody (List.cons_ne_nil c body)
      exact offset_ofOffset_firstLine hbody hlines (List.append_nil _).symm ho
  | line body b rest hbody hfits ih =>
    have hlines := linesOf_append hbody hfits
    have ht : body ++ (b.text ++ rest) = Line.text ⟨body, some b⟩ ++ rest :=
      (List.append_assoc _ _ _).symm
    by_cases hfirst : o ≤ body.length
    · exact offset_ofOffset_firstLine hbody hlines ht hfirst
    · obtain ⟨i, rfl⟩ : ∃ i, o = body.length + (b.text.length + i) :=
        ⟨o - body.length - b.text.length, by
          have := le_of_not_splitsBreak (Nat.not_le.1 hfirst) h
          omega⟩
      rw [List.length_append, List.length_append] at ho
      have hsplit : ¬ SplitsBreak rest i := by
        intro hs
        have hpos : 0 < i := hs.1
        apply h
        rw [splitsBreak_append_iff (by omega), splitsBreak_append_iff hpos]
        exact hs
      have hrest := ih (o := i) (by omega) hsplit
      rw [ofOffset_nextLine hbody hfits, offset_succ_eq hlines ht, Line.text_some,
        List.length_append]
      show _ + Position.offset .utf16 rest (Position.ofOffset rest i) = _
      rw [hrest, Nat.add_assoc]

/-! ## what positions denote -/

/-- **UTF-16 positions are decoded correctly.** A line that does not exist is the end of the text;
in a line, a character denotes the first place with at least as many code units before it, or the
end of the line before its break. So the position of every offset, unless it lies inside a `\r\n`,
leads back to it. -/
theorem utf16_positions_decoded (t : Text) :
    (∀ p : Position, p.offset .utf16 t = cursorOffset t p.line (p.converted .utf16 t)) ∧
    (∀ p : Position, (linesOf t).length ≤ p.line → p.offset .utf16 t = t.length) ∧
    (∀ (p : Position) (l : Line), (linesOf t)[p.line]? = some l →
      (∀ k ≤ l.body.length, p.character ≤ (encode16 (l.body.take k)).length →
        (∀ j < k, (encode16 (l.body.take j)).length < p.character) →
        p.offset .utf16 t = lineStart (linesOf t) p.line + k) ∧
      ((∀ k ≤ l.body.length, (encode16 (l.body.take k)).length < p.character) →
        p.offset .utf16 t = lineStart (linesOf t) p.line + l.body.length)) ∧
    (∀ o ≤ t.length, ¬ SplitsBreak t o → (Position.ofOffset t o).offset .utf16 t = o) := by
  refine ⟨offset_eq_converted .utf16 t, ?_, ?_, fun o ho h => offset_ofOffset ho h⟩
  · intro p hline
    exact offset_of_no_line (List.getElem?_eq_none hline)
  · intro p l hl
    constructor
    · intro k _ hk hleast
      rw [offset_of_line hl, column_of_least hk hleast]
    · intro hnone
      rw [offset_of_line hl, column_of_none hnone]

/-- a character between two surrogates counts as the end of their pair, and one past the line as its
end; the offset after a `\r\n` is the start of the next line -/
theorem utf16_positions_decoded_astral :
    Position.offset .utf16 "x😀\r\ny".toList ⟨0, 2⟩ = 0 + 2 ∧
    Position.offset .utf16 "x😀\r\ny".toList ⟨0, 4⟩ = 0 + 2 ∧
    Position.offset .utf16 "x😀\r\ny".toList ⟨2, 0⟩ = 5 ∧
    Position.ofOffset "x😀\r\ny".toList 4 = ⟨1, 0⟩ ∧
    (Position.ofOffset "x😀\r\ny".toList 4).offset .utf16 "x😀\r\ny".toList = 4 := by
  obtain ⟨-, hend, hline, hback⟩ := utf16_positions_decoded "x😀\r\ny".toList
  refine ⟨?_, ?_, hend ⟨2, 0⟩ (by decide), by decide, hback 4 (by decide) (by decide)⟩
  · exact (hline ⟨0, 2⟩ ⟨"x😀".toList, some .crlf⟩ (by decide)).1 2 (by decide) (by decide)
      (by decide)
  · exact (hline ⟨0, 4⟩ ⟨"x😀".toList, some .crlf⟩ (by decide)).2 (by decide)

end ElementProps

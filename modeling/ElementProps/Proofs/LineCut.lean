import Mathlib.Data.List.Chain
import ElementProps.Proofs.ClientPositions

/-!
# Cutting a text into lines

A text is cut into lines in one way only. Each piece is a body without breaks with one break behind
it; the last piece may also be a body alone, and no `\r\n` is cut in two. Whatever pieces keep to
that are the lines of the text.

* `EndedLine s`, `OpenLine s`   a line with its break, and a last line without one;
* `IsLineCut t pieces`          the pieces are a cut of the text into lines;
* `IsLineCut.cons`              a cut with one more ended line in front;
* `IsLineCut.first`             the first piece of a cut, and what is left behind it;
* `lines_only_cut`              the lines of a text are its only cut.
-/

namespace ElementProps

/-! ## cuts -/

def EndedLine (s : Text) : Prop := ∃ body b, NoBreak body ∧ s = body ++ LineBreak.text b

def OpenLine (s : Text) : Prop := s ≠ [] ∧ NoBreak s

/-- a text cut into lines, each with its break -/
structure IsLineCut (t : Text) (pieces : List Text) : Prop where
  flatten_eq : pieces.flatten = t
  ne_nil : ∀ s ∈ pieces, s ≠ []
  ended : ∀ s ∈ pieces.dropLast, EndedLine s
  last : ∀ s, pieces.getLast? = some s → EndedLine s ∨ OpenLine s
  /-- a lone `\r` at the end of a piece is not the first half of a `\r\n` -/
  whole : pieces.IsChain fun s r => s.getLast? = some '\r' → r.head? ≠ some '\n'

theorem isLineCut_nil : IsLineCut [] [] where
  flatten_eq := rfl
  ne_nil := fun _ h => absurd h List.not_mem_nil
  ended := fun _ h => absurd h List.not_mem_nil
  last := fun _ h => absurd h (by simp)
  whole := List.IsChain.nil

theorem OpenLine.isLineCut {s : Text} (h : OpenLine s) : IsLineCut s [s] where
  flatten_eq := List.flatten_singleton
  ne_nil := fun _ hr => List.mem_singleton.1 hr ▸ h.1
  ended := fun _ hr => absurd hr List.not_mem_nil
  last := fun _ hr => Or.inr (Option.some.inj hr ▸ h)
  whole := List.IsChain.singleton s

theorem getLast?_eq_cr_iff (body : Text) (b : LineBreak) :
    (body ++ b.text).getLast? = some '\r' ↔ b = .cr := by
  cases b <;> simp [LineBreak.text]

/-! ## the first piece -/

section
variable {t rest body s : Text} {b : LineBreak} {pieces : List Text}

theorem IsLineCut.cons (hbody : NoBreak body) (hfits : b.Fits rest) (h : IsLineCut rest pieces) :
    IsLineCut (body ++ (b.text ++ rest)) ((body ++ b.text) :: pieces) where
  flatten_eq := by rw [List.flatten_cons, h.flatten_eq, List.append_assoc]
  ne_nil := by
    intro r hr
    rcases List.mem_cons.1 hr with rfl | hr
    · exact List.append_ne_nil_of_right_ne_nil body (List.ne_nil_of_length_pos b.length_text_pos)
    · exact h.ne_nil r hr
  ended := by
    intro r hr
    cases pieces with
    | nil => exact absurd hr List.not_mem_nil
    | cons p pieces =>
      rw [List.dropLast_cons_cons] at hr
      rcases List.mem_cons.1 hr with rfl | hr
      · exact ⟨body, b, hbody, rfl⟩
      · exact h.ended r hr
  last := by
    intro r hr
    cases pieces with
    | nil =>
      obtain rfl := Option.some.inj hr
      exact Or.inl ⟨body, b, hbody, rfl⟩
    | cons p pieces =>
      rw [List.getLast?_cons_cons] at hr
      exact h.last r hr
  whole := by
    cases pieces with
    | nil => exact List.IsChain.singleton _
    | cons p pieces =>
      refine List.isChain_cons_cons.2 ⟨?_, h.whole⟩
      intro hr hn
      obtain ⟨x, rfl⟩ := List.head?_eq_some_iff.1 hn
      exact hfits ((getLast?_eq_cr_iff body b).1 hr) (x ++ pieces.flatten) h.flatten_eq.symm

/-- a first piece that is not the last one has a break, and the pieces behind it are a cut of what
follows -/
theorem IsLineCut.first (h : IsLineCut t (s :: pieces)) :
    (OpenLine s ∧ pieces = [] ∧ t = s) ∨
    ∃ body b rest, NoBreak body ∧ LineBreak.Fits b rest ∧ s = body ++ b.text ∧
      t = body ++ (b.text ++ rest) ∧ IsLineCut rest pieces := by
  cases pieces with
  | nil =>
    have ht : t = s := by rw [← h.flatten_eq, List.flatten_singleton]
    rcases h.last s rfl with ⟨body, b, hbody, hs⟩ | hopen
    · refine Or.inr ⟨body, b, [], hbody, ?_, hs, ?_, isLineCut_nil⟩
      · exact fun _ r hr => absurd hr (by simp)
      · rw [ht, hs, List.append_nil]
    · exact Or.inl ⟨hopen, rfl, ht⟩
  | cons p pieces =>
    obtain ⟨body, b, hbody, hs⟩ : EndedLine s := by
      apply h.ended
      rw [List.dropLast_cons_cons]
      exact List.mem_cons_self
    obtain ⟨hlink, hwhole⟩ := List.isChain_cons_cons.1 h.whole
    have hne : p ≠ [] := h.ne_nil p (List.mem_cons_of_mem s List.mem_cons_self)
    refine Or.inr ⟨body, b, (p :: pieces).flatten, hbody, ?_, hs, ?_, rfl, ?_, ?_, ?_, hwhole⟩
    · intro hb x hx
      obtain ⟨c, r, rfl⟩ := List.exists_cons_of_ne_nil hne
      obtain ⟨rfl, -⟩ := List.cons.inj hx
      exact hlink (by rw [hs, getLast?_eq_cr_iff]; exact hb) rfl
    · rw [← h.flatten_eq, List.flatten_cons, hs, List.append_assoc]
    · exact fun r hr => h.ne_nil r (List.mem_cons_of_mem s hr)
    · intro r hr
      apply h.ended
      rw [List.dropLast_cons_cons]
      exact List.mem_cons_of_mem s hr
    · intro r hr
      apply h.last
      rw [List.getLast?_cons_cons]
      exact hr

end

/-! ## the only cut -/

theorem isLineCut_linesOf (t : Text) : IsLineCut t ((linesOf t).map Line.text) := by
  induction t using Text.lineInduction with
  | last body hbody =>
    by_cases hne : body = []
    · rw [hne]
      exact isLineCut_nil
    · rw [linesOf_noBreak hbody hne]
      exact OpenLine.isLineCut ⟨hne, hbody⟩
  | line body b rest hbody hfits ih =>
    rw [linesOf_append hbody hfits]
    exact IsLineCut.cons hbody hfits ih

/-- The induction is on the pieces: what is left behind the first piece is cut into the others. -/
theorem IsLineCut.eq_linesOf {t : Text} {pieces : List Text} (h : IsLineCut t pieces) :
    pieces = (linesOf t).map Line.text := by
  induction pieces generalizing t with
  | nil =>
    rw [← h.flatten_eq]
    rfl
  | cons s pieces ih =>
    rcases h.first with ⟨⟨hne, hbody⟩, rfl, rfl⟩ | ⟨body, b, rest, hbody, hfits, rfl, rfl, hrest⟩
    · rw [linesOf_noBreak hbody hne]
      rfl
    · rw [linesOf_append hbody hfits, List.map_cons, ← ih hrest]
      rfl

/-- **The lines of a text are its only cut.** They concatenate to the text, none is empty, each but
the last is a body without breaks with one break behind it, the last is of that form or a body
alone, and no `\r\n` is cut in two; and no other pieces are like that. -/
theorem lines_only_cut (t : Text) (pieces : List Text) :
    IsLineCut t pieces ↔ pieces = (linesOf t).map Line.text := by
  constructor
  · exact IsLineCut.eq_linesOf
  · intro h
    rw [h]
    exact isLineCut_linesOf t

-- a `\r` in front of a `\r\n` is a line of its own
example : (linesOf "a\r\r\n\nb".toList).map Line.text =
    ["a\r".toList, "\r\n".toList, "\n".toList, "b".toList] := by
  decide

end ElementProps

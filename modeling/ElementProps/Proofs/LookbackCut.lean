import ElementProps.Proofs.WholeDocument

/-!
# Cutting the text before the cursor

The lookback may cut the text anywhere. A cut inside a word can leave the end of the word where a
constructor would stand: of `Create(Frame, …` the last letter and what follows are taken for a call.
This is the only way in which a cut invents a call, and such a call is gone as soon as one more
character is looked at.

* `CutCall t o lookback`        the last call before the cursor is of this kind;
* `CallText.not_cons`           a call does not become another call by one more character in front;
* `elementCalls_lookback_exact` which calls a cut leaves, and when a longer lookback offers the
                                same.
-/

namespace ElementProps

/-- the last call that is seen begins where the lookback cuts a word -/
def CutCall (t : Text) (o : Nat) (lookback : Int) : Prop :=
  ∃ s, (elementCalls (beforeCursor t o lookback)).getLast? = some s ∧ s.start = 0 ∧
    wordBefore t (o - (beforeCursor t o lookback).length) = true

/-! ## one more character -/

theorem Blanks.head_paren {b v x : Text} {d : Char} (hb : Blanks b) (h : b ++ '(' :: v = d :: x) :
    Text.isBlank d = true ∨ d = '(' := by
  cases b with
  | nil => exact Or.inr (List.cons.inj h).1.symm
  | cons e b =>
    rw [← (List.cons.inj h).1]
    exact Or.inl (hb e List.mem_cons_self)

theorem CallText.not_cons {name u name' u' r r' : Text} {c : Char} (h : CallText name u)
    (h' : CallText name' u') : u' ++ r' ≠ c :: (u ++ r) := by
  intro he
  obtain ⟨token', htoken', b', v', hb', -, rfl⟩ := h'.split
  simp only [constructors, List.mem_cons, List.not_mem_nil, or_false] at htoken'
  simp only [List.append_assoc, List.cons_append] at he
  rcases htoken' with rfl | rfl
  · -- after the first letter of the long constructor comes its second
    obtain ⟨token, htoken, b, v, hb, -, rfl⟩ := h.split
    simp only [constructors, List.mem_cons, List.not_mem_nil, or_false] at htoken
    have h1 := (List.cons.inj he).2
    rcases htoken with rfl | rfl
    · exact absurd (List.cons.inj h1).1 (by decide)
    · simp only [List.append_assoc, List.cons_append] at h1
      have h2 := hb.head_paren (List.cons.inj h1).2.symm
      exact absurd h2 (by decide)
  · -- after the short one comes a blank or a parenthesis
    obtain ⟨d, w, rfl, hd⟩ := h.head
    have h1 := hb'.head_paren (List.cons.inj he).2
    rcases hd with rfl | rfl
    · exact absurd h1 (by decide)
    · exact absurd h1 (by decide)

theorem elementCalls_cons_eq_nil {c : Char} {w : Text} {s : ElementCall} (hc : Text.isWord c = true)
    (h : (elementCalls w).getLast? = some s) (h0 : s.start = 0) : elementCalls (c :: w) = [] := by
  obtain ⟨hs, hmax⟩ := getLast?_elementCalls_eq_some_iff.1 h
  have hw : slice (c :: w) 1 (c :: w).length = w := by
    rw [slice, List.take_length]
    rfl
  have hword : wordBefore (c :: w) 1 = true := by
    show (some c).any Text.isWord = true
    exact hc
  rw [List.eq_nil_iff_forall_not_mem]
  intro s' hs'
  have hs' := mem_elementCalls.1 hs'
  by_cases hle : 1 ≤ s'.start
  · -- a call of `w`: then it begins at the cut
    have hlt := hs'.start_lt_brace
    obtain ⟨s₁, rfl⟩ := exists_shift_of_le hle (by omega)
    obtain ⟨h1, h2⟩ := (isCall_slice_iff (Nat.le_refl _)).2 ⟨hs', hs'.brace_lt⟩
    rw [hw] at h1
    have := hmax s₁ h1
    exact h2 ⟨by omega, hword⟩
  · obtain ⟨p, u, r, rfl, htext, -, hstart, -⟩ := isCall_iff_append.1 hs
    obtain ⟨p', u', r', he, htext', -, hstart', -⟩ := isCall_iff_append.1 hs'
    obtain rfl := List.length_eq_zero_iff.1 (hstart.symm.trans h0)
    obtain rfl := List.length_eq_zero_iff.1 (hstart'.symm.trans (by omega))
    exact htext.not_cons htext' he.symm

/-! ## longer lookbacks -/

section
variable {builtin : PropertyMap} {user : Option PropertyMap} {t : Text} {o : Nat} {lookback : Int}

theorem beforeCursor_eq_slice_of_le (ho : o ≤ t.length) (lookback : Int) :
    beforeCursor t o lookback = slice t (o - lookback).toNat o := by
  rw [beforeCursor_eq_slice, inText_of_le ho]

theorem sub_length_beforeCursor (ho : o ≤ t.length) (hL : 0 ≤ lookback) :
    o - (beforeCursor t o lookback).length = (o - lookback).toNat := by
  rw [beforeCursor_eq_slice_of_le ho, length_slice ho]
  omega

theorem complete_eq_findIn (ho : o ≤ t.length) :
    Completer.complete ⟨builtin, lookback⟩ user t o =
      (findIn builtin user (slice t (o - lookback).toNat o)).completions := by
  rw [Completer.complete, Completer.find, beforeCursor_eq_slice_of_le ho]

theorem exists_getLast?_of_complete (ho : o ≤ t.length)
    (h : Completer.complete ⟨builtin, lookback⟩ user t o ≠ []) :
    ∃ s, (elementCalls (slice t (o - lookback).toNat o)).getLast? = some s := by
  rw [complete_eq_findIn ho, findIn_eq] at h
  cases hl : (elementCalls (slice t (o - lookback).toNat o)).getLast? with
  | none => rw [hl] at h; exact absurd rfl h
  | some s => exact ⟨s, rfl⟩

/-- a call that stands in the text offers the same to every longer lookback -/
theorem complete_eq_of_not_cutCall (ho : o ≤ t.length) (hL : 0 ≤ lookback)
    (h : Completer.complete ⟨builtin, lookback⟩ user t o ≠ []) (hcut : ¬ CutCall t o lookback)
    {longer : Int} (hle : lookback ≤ longer) :
    Completer.complete ⟨builtin, longer⟩ user t o =
      Completer.complete ⟨builtin, lookback⟩ user t o := by
  obtain ⟨s, hs⟩ := exists_getLast?_of_complete ho h
  have hlast : lastCallBefore? t o = some (s.shift (o - lookback).toNat) := by
    refine lastCallBefore?_of_slice ho hs (fun hc => hcut ⟨s, ?_, hc.1, ?_⟩)
    · rw [beforeCursor_eq_slice_of_le ho]
      exact hs
    · rw [sub_length_beforeCursor ho hL]
      exact hc.2
  have hstart : (s.shift (o - lookback).toNat).start = s.start + (o - lookback).toNat := rfl
  rw [complete_eq_findIn ho, complete_eq_findIn ho, findIn_slice ho hlast (by omega),
    findIn_slice ho hlast (by omega)]

/-- a call that the cut invents is gone with one more character -/
theorem complete_eq_nil_of_cutCall (ho : o ≤ t.length) (hL : 0 ≤ lookback)
    (hcut : CutCall t o lookback) : Completer.complete ⟨builtin, lookback + 1⟩ user t o = [] := by
  obtain ⟨s, hs, h0, hword⟩ := hcut
  rw [sub_length_beforeCursor ho hL] at hword
  rw [beforeCursor_eq_slice_of_le ho] at hs
  obtain ⟨a, ha⟩ : ∃ a, (o - lookback).toNat = a + 1 := by
    cases hn : (o - lookback).toNat with
    | zero => rw [hn] at hword; exact absurd hword (by simp [wordBefore])
    | succ a => exact ⟨a, rfl⟩
  have hlt : a < t.length := by omega
  have hw : Text.isWord t[a] = true := by
    rw [ha, wordBefore, List.take_add_one, List.getElem?_eq_getElem hlt, Option.toList_some,
      List.getLast?_concat] at hword
    exact hword
  rw [complete_eq_findIn ho, show (o - (lookback + 1)).toNat = a by omega,
    slice_eq_cons (List.getElem?_eq_getElem hlt) (by omega), findIn_eq,
    elementCalls_cons_eq_nil hw (by rw [← ha]; exact hs) h0]
  rfl

end

/-- **What a cut does to the calls of a text.** A call that is seen after the cut is a call of the
text, unless it begins at the cut and continues a word there. Completions that are offered after
the cut are offered by every longer lookback, unless the call that offers them is of that kind. -/
theorem elementCalls_lookback_exact (t : Text) (o : Nat) (ho : o ≤ t.length) (lookback : Int)
    (hL : 0 ≤ lookback) :
    (∀ s ∈ elementCalls (beforeCursor t o lookback),
      s.shift (o - (beforeCursor t o lookback).length) ∈ elementCalls t ↔
        ¬ (s.start = 0 ∧ wordBefore t (o - (beforeCursor t o lookback).length) = true)) ∧
    ∀ (builtin : PropertyMap) (user : Option PropertyMap),
      Completer.complete ⟨builtin, lookback⟩ user t o ≠ [] →
      ((∀ longer, lookback ≤ longer → Completer.complete ⟨builtin, longer⟩ user t o =
          Completer.complete ⟨builtin, lookback⟩ user t o) ↔
        ¬ CutCall t o lookback) := by
  constructor
  · intro s hs
    rw [sub_length_beforeCursor ho hL]
    rw [beforeCursor_eq_slice_of_le ho, mem_elementCalls] at hs
    rw [mem_elementCalls]
    constructor
    · intro h
      have hlt := hs.brace_lt
      rw [length_slice ho] at hlt
      exact ((isCall_slice_iff ho).2 ⟨h, by omega⟩).2
    · intro h
      exact ((isCall_slice_iff ho).1 ⟨hs, h⟩).1
  · intro builtin user h
    constructor
    · intro hall hcut
      have h1 := hall (lookback + 1) (by omega)
      rw [complete_eq_nil_of_cutCall ho hL hcut] at h1
      exact h h1.symm
    · intro hcut longer hle
      exact complete_eq_of_not_cutCall ho hL h hcut hle

/-- a lookback that begins after a blank: the call is kept, and every longer lookback offers it -/
theorem elementCalls_lookback_exact_frame :
    (ElementCall.shift ⟨0, 9, "Frame"⟩ 1 ∈ elementCalls " e(Frame, \x7b".toList ↔
      ¬ ((0 : Nat) = 0 ∧ wordBefore " e(Frame, \x7b".toList 1 = true)) ∧
    ((∀ longer : Int, 10 ≤ longer →
        Completer.complete ⟨PropertyMap.builtin, longer⟩ none " e(Frame, \x7b".toList (11 : Nat) =
          Completer.complete ⟨PropertyMap.builtin, 10⟩ none " e(Frame, \x7b".toList (11 : Nat)) ↔
      ¬ CutCall " e(Frame, \x7b".toList 11 10) := by
  have h := elementCalls_lookback_exact " e(Frame, \x7b".toList 11 (by decide) 10 (by decide)
  exact ⟨h.1 ⟨0, 9, "Frame"⟩ (by decide +kernel), h.2 PropertyMap.builtin none (by decide +kernel)⟩

/-- a lookback that begins inside `Create` finds a call that the text does not have, and offers what
no longer lookback offers -/
theorem elementCalls_lookback_create :
    ⟨0, 9, "Frame"⟩ ∈ elementCalls (beforeCursor "Create(Frame, \x7b".toList 15 10) ∧
    ElementCall.shift ⟨0, 9, "Frame"⟩ 5 ∉ elementCalls "Create(Frame, \x7b".toList ∧
    Completer.complete ⟨PropertyMap.builtin, 10⟩ none "Create(Frame, \x7b".toList 15 ≠ [] ∧
    Completer.complete ⟨PropertyMap.builtin, 2000⟩ none "Create(Frame, \x7b".toList 15 = [] := by
  decide +kernel

end ElementProps

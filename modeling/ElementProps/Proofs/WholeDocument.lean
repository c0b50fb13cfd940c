import ElementProps.Proofs.BraceWalk

/-!
# Completion in terms of the whole document

Completion reads the text before the cursor, of that the last characters, and scans them twice. Read
against the calls of the whole document it says: the last call whose brace stands before the cursor
decides, provided that it lies within the lookback and its table is open.

* `Offers k user t o s ps`     the call `s` decides at the offset `o`, and offers the names `ps`;
* `find_of_lastCallBefore?`    a call within the lookback decides wherever the text is cut;
* `lastOffered t s`            the last offset at which a call can offer anything;
* `complete_wholeDocument`     completion offers what the deciding call offers, and the offsets at
                               which a call decides form one interval.
-/

namespace ElementProps

/-- the call of the whole document that decides at an offset, with the names that it offers -/
structure Offers (k : Completer) (user : Option PropertyMap) (t : Text) (o : Nat) (s : ElementCall)
    (ps : List String) : Prop where
  last : lastCallBefore? t o = some s
  near : (o : Int) - k.lookback ≤ s.start
  known : PropertyMap.offered k.builtin user s.className = some ps
  ne_nil : ps ≠ []
  isOpen : ∀ i, s.brace < i → i < o → ¬ Balanced t s.brace i

/-! ## the window -/

theorem beforeCursor_eq_slice (t : Text) (offset lookback : Int) :
    beforeCursor t offset lookback =
      slice t (inText t offset - lookback).toNat (inText t offset) := by
  have hl : (t.take (inText t offset)).length = inText t offset := by
    have := inText_le t offset
    rw [List.length_take]
    omega
  simp only [beforeCursor, hl]
  rfl

section
variable {k : Completer} {user : Option PropertyMap} {t : Text} {offset : Int} {s : ElementCall}

theorem find_of_lastCallBefore? (h : lastCallBefore? t (inText t offset) = some s)
    (hnear : (inText t offset : Int) - k.lookback ≤ s.start) :
    k.find user t offset = findingInTable k.builtin user s.className
      (slice t (s.brace + 1) (inText t offset)) := by
  rw [Completer.find, beforeCursor_eq_slice]
  exact findIn_slice (inText_le t offset) h (by omega)

/-- Without a call in reach nothing is found, unless the cut turns the rest of a word into one. -/
theorem find_of_far
    (hcut : k.lookback ≤ 0 ∨ wordBefore t (inText t offset - k.lookback).toNat = false)
    (hfar : ∀ s, lastCallBefore? t (inText t offset) = some s →
      (s.start : Int) < inText t offset - k.lookback) :
    k.find user t offset = .noCall := by
  rw [Completer.find, beforeCursor_eq_slice]
  rcases hcut with hL | hcut
  · have hnil : slice t (inText t offset - k.lookback).toNat (inText t offset) = [] := by
      rw [← List.length_eq_zero_iff, length_slice (inText_le t offset)]
      omega
    rw [hnil]
    rfl
  · refine findIn_slice_none (inText_le t offset) (fun s hs => ?_) hcut
    have := hfar s hs
    omega

/-! ## the table -/

theorem findingInTable_completions_of_open {builtin : PropertyMap} {className : String}
    {ps : List String} {rest : Text}
    (hknown : PropertyMap.offered builtin user className = some ps) (hne : ps ≠ [])
    (hopen : staysOpen 0 rest = true) :
    (findingInTable builtin user className rest).completions = completionsFor className ps := by
  obtain _ | ⟨p, ps⟩ := ps
  · exact absurd rfl hne
  · rw [findingInTable, hknown]
    simp only [hopen, if_true]
    rfl

theorem of_findingInTable_completions_ne_nil {builtin : PropertyMap} {className : String}
    {rest : Text} (h : (findingInTable builtin user className rest).completions ≠ []) :
    ∃ ps, PropertyMap.offered builtin user className = some ps ∧ ps ≠ [] ∧
      staysOpen 0 rest = true := by
  unfold findingInTable at h
  split at h
  · exact absurd rfl h
  · exact absurd rfl h
  · next p ps hknown =>
    split at h
    · next hopen => exact ⟨p :: ps, hknown, by simp, hopen⟩
    · exact absurd rfl h

theorem staysOpen_iff_of_lastCallBefore? {o : Nat} (ho : o ≤ t.length)
    (h : lastCallBefore? t o = some s) :
    staysOpen 0 (slice t (s.brace + 1) o) = true ↔
      ∀ i, s.brace < i → i < o → ¬ Balanced t s.brace i :=
  staysOpen_slice_iff (lastCallBefore?_eq_some_iff.1 h).1.1.getElem?_brace ho

/-! ## the deciding call -/

theorem Offers.complete_eq {ps : List String} (h : Offers k user t (inText t offset) s ps) :
    k.complete user t offset = completionsFor s.className ps := by
  rw [Completer.complete, find_of_lastCallBefore? h.last h.near]
  exact findingInTable_completions_of_open h.known h.ne_nil
    ((staysOpen_iff_of_lastCallBefore? (inText_le t offset) h.last).2 h.isOpen)

theorem complete_eq_nil_of_not_offers
    (hcut : k.lookback ≤ 0 ∨ wordBefore t (inText t offset - k.lookback).toNat = false)
    (h : ¬ ∃ s ps, Offers k user t (inText t offset) s ps) : k.complete user t offset = [] := by
  by_cases hnear : ∃ s, lastCallBefore? t (inText t offset) = some s ∧
      (inText t offset : Int) - k.lookback ≤ s.start
  · obtain ⟨s, hs, hnear⟩ := hnear
    rw [Completer.complete, find_of_lastCallBefore? hs hnear]
    refine Decidable.byContradiction fun hne => h ?_
    obtain ⟨ps, hknown, hps, hopen⟩ := of_findingInTable_completions_ne_nil hne
    exact ⟨s, ps, hs, hnear, hknown, hps,
      (staysOpen_iff_of_lastCallBefore? (inText_le t offset) hs).1 hopen⟩
  · rw [Completer.complete, find_of_far hcut]
    · rfl
    · intro s hs
      by_cases hle : (inText t offset : Int) - k.lookback ≤ s.start
      · exact absurd ⟨s, hs, hle⟩ hnear
      · omega

end

/-! ## the offsets of one call -/

/-- the first call of a text that begins after a given one -/
def nextCall? (t : Text) (s : ElementCall) : Option ElementCall :=
  (elementCalls t).find? fun s' => s.start < s'.start

/-- The last offset at which a call can offer anything: its partner brace, the brace of the next
call or the end of the text, whichever comes first. -/
def lastOffered (t : Text) (s : ElementCall) : Nat :=
  min ((closing? t s.brace).getD t.length) (((nextCall? t s).map ElementCall.brace).getD t.length)

theorem nextCall?_first {t : Text} {s n : ElementCall} (h : nextCall? t s = some n) :
    IsCall t n ∧ s.start < n.start ∧
      ∀ s', IsCall t s' → s.start < s'.start → n.start ≤ s'.start := by
  obtain ⟨hn, front, back, hl, hfront⟩ := List.find?_eq_some_iff_append.1 h
  have hmem : n ∈ elementCalls t := by rw [hl]; simp
  refine ⟨mem_elementCalls.1 hmem, by simpa using hn, fun s' hs' hlt => ?_⟩
  have hs' := mem_elementCalls.2 hs'
  have hp := elementCalls_pairwise t
  rw [hl] at hs' hp
  rcases List.mem_append.1 hs' with h1 | h1
  · have hge : ¬ s.start < s'.start := by simpa using hfront s' h1
    omega
  · rcases List.mem_cons.1 h1 with rfl | h1
    · exact Nat.le_refl _
    · exact Nat.le_of_lt ((List.pairwise_cons.1 (List.pairwise_append.1 hp).2.1).1 s' h1)

theorem lastCallBefore?_iff_nextCall? {t : Text} {s : ElementCall} {o : Nat} (hs : IsCall t s) :
    lastCallBefore? t o = some s ↔ s.brace < o ∧ ∀ n, nextCall? t s = some n → o ≤ n.brace := by
  rw [lastCallBefore?_eq_some_iff]
  constructor
  · rintro ⟨⟨-, hlt⟩, hmax⟩
    refine ⟨hlt, fun n hn => ?_⟩
    obtain ⟨hn, hsn, -⟩ := nextCall?_first hn
    by_cases hno : n.brace < o
    · have := hmax n hn hno
      omega
    · omega
  · rintro ⟨hlt, hnext⟩
    refine ⟨⟨hs, hlt⟩, fun s' hs' hlt' => ?_⟩
    by_cases hss : s.start < s'.start
    · -- then some call is the next one, and its brace comes no later than that of `s'`
      cases hn : nextCall? t s with
      | none =>
        rw [nextCall?, List.find?_eq_none] at hn
        exact absurd hss (by simpa using hn s' (mem_elementCalls.2 hs'))
      | some n =>
        obtain ⟨hn', -, hfirst⟩ := nextCall?_first hn
        have hle := hfirst s' hs' hss
        have ho := hnext n hn
        have hbrace : n.brace ≤ s'.brace := by
          rcases Nat.lt_or_eq_of_le hle with hlt | heq
          · have h1 := hn'.brace_lt_start hs' hlt
            have h2 := hs'.start_lt_brace
            omega
          · obtain rfl := hn'.eq_of_start hs' heq
            exact Nat.le_refl _
        omega
    · omega

theorem le_getD_iff {x : Option Nat} {o n : Nat} (ho : o ≤ n) :
    o ≤ x.getD n ↔ ∀ i, x = some i → o ≤ i := by
  cases x with
  | none => simp [ho]
  | some i => simp

theorem le_lastOffered_iff {t : Text} {s : ElementCall} {o : Nat} (ho : o ≤ t.length) :
    o ≤ lastOffered t s ↔ (∀ i, s.brace < i → i < o → ¬ Balanced t s.brace i) ∧
      ∀ n, nextCall? t s = some n → o ≤ n.brace := by
  rw [lastOffered, Nat.le_min, le_getD_iff ho, le_getD_iff ho, not_balanced_iff_closing? ho]
  refine and_congr Iff.rfl ⟨fun h n hn => h n.brace (by rw [hn]; rfl), fun h i hi => ?_⟩
  obtain ⟨n, hn, rfl⟩ := Option.map_eq_some_iff.1 hi
  exact h n hn

theorem brace_lt_lastOffered {t : Text} {s : ElementCall} (hs : IsCall t s) :
    s.brace < lastOffered t s := by
  have hlt := hs.brace_lt
  refine (le_lastOffered_iff (o := s.brace + 1) hlt).2 ⟨fun i hi hi' => by omega, fun n hn => ?_⟩
  obtain ⟨hn, hsn, -⟩ := nextCall?_first hn
  have h1 := hs.brace_lt_start hn hsn
  have h2 := hn.start_lt_brace
  omega

theorem offers_iff_le_lastOffered {k : Completer} {user : Option PropertyMap} {t : Text}
    {s : ElementCall} {ps : List String} {o : Nat} (hk : (t.length : Int) ≤ k.lookback)
    (hs : IsCall t s) (hknown : PropertyMap.offered k.builtin user s.className = some ps)
    (hne : ps ≠ []) (ho : o ≤ t.length) :
    Offers k user t o s ps ↔ s.brace < o ∧ o ≤ lastOffered t s := by
  rw [le_lastOffered_iff ho]
  constructor
  · intro h
    obtain ⟨hlt, hnext⟩ := (lastCallBefore?_iff_nextCall? hs).1 h.last
    exact ⟨hlt, h.isOpen, hnext⟩
  · rintro ⟨hlt, hopen, hnext⟩
    exact ⟨(lastCallBefore?_iff_nextCall? hs).2 ⟨hlt, hnext⟩, by omega, hknown, hne, hopen⟩

/-! ## the meaning of completion -/

/-- the condition of `find_of_far` in terms of the characters of the text -/
theorem wordBefore_window {t : Text} {o : Nat} {lookback : Int} (ho : o ≤ t.length)
    (h : lookback ≤ 0 ∨ (o : Int) ≤ lookback ∨
      ∃ c, t[(o - lookback - 1).toNat]? = some c ∧ Text.isWord c = false) :
    lookback ≤ 0 ∨ wordBefore t (o - lookback).toNat = false := by
  by_cases hL : lookback ≤ 0
  · exact Or.inl hL
  · refine Or.inr ((wordBefore_eq_false_iff (by omega)).2 ?_)
    rcases h with h | h | ⟨c, hc, hw⟩
    · exact absurd h hL
    · exact Or.inl (by omega)
    · refine Or.inr ⟨c, ?_, hw⟩
      rw [show (o - lookback).toNat - 1 = (o - lookback - 1).toNat by omega]
      exact hc

/-- **Completion in terms of the whole document.** Where the lookback does not cut a word,
completion offers what the deciding call of the whole document offers, and nothing where no call
decides. With the whole text in reach, a call with known properties decides from just after its
brace up to its partner brace or the brace of the next call. -/
theorem complete_wholeDocument (k : Completer) (user : Option PropertyMap) (t : Text) :
    (∀ offset : Int,
      (k.lookback ≤ 0 ∨ (inText t offset : Int) ≤ k.lookback ∨
        ∃ c, t[(inText t offset - k.lookback - 1).toNat]? = some c ∧ Text.isWord c = false) →
      (∀ s ps, Offers k user t (inText t offset) s ps →
        k.complete user t offset = completionsFor s.className ps) ∧
      ((¬ ∃ s ps, Offers k user t (inText t offset) s ps) → k.complete user t offset = [])) ∧
    ((t.length : Int) ≤ k.lookback → ∀ s ps, s ∈ elementCalls t →
      PropertyMap.offered k.builtin user s.className = some ps → ps ≠ [] →
      (∀ i, closing? t s.brace = some i → t[i]? = some '}') ∧ s.brace < lastOffered t s ∧
      ∀ o : Nat, o ≤ t.length →
        ((lastCallBefore? t o = some s ∧ k.complete user t o = completionsFor s.className ps) ↔
          s.brace < o ∧ o ≤ lastOffered t s)) := by
  refine ⟨fun offset hcut => ⟨fun s ps h => h.complete_eq, fun h =>
    complete_eq_nil_of_not_offers (wordBefore_window (inText_le t offset) hcut) h⟩, ?_⟩
  intro hk s ps hs hknown hne
  have hs := mem_elementCalls.1 hs
  refine ⟨fun i hi => getElem?_of_closing? hs.getElem?_brace hi, brace_lt_lastOffered hs,
    fun o ho => ?_⟩
  have hin : inText t o = o := inText_of_le ho
  rw [← offers_iff_le_lastOffered hk hs hknown hne ho]
  constructor
  · rintro ⟨hlast, hcomplete⟩
    have hfind : k.find user t o = findingInTable k.builtin user s.className
        (slice t (s.brace + 1) (inText t o)) :=
      find_of_lastCallBefore? (by rw [hin]; exact hlast) (by omega)
    rw [Completer.complete, hfind, hin] at hcomplete
    obtain ⟨-, -, -, hopen⟩ := of_findingInTable_completions_ne_nil (by
      rw [hcomplete, completionsFor]
      simpa using hne)
    exact ⟨hlast, by omega, hknown, hne, (staysOpen_iff_of_lastCallBefore? ho hlast).1 hopen⟩
  · intro h
    exact ⟨h.last, Offers.complete_eq (by rw [hin]; exact h)⟩

/-- a lookback of 19 begins right at the call, after a blank, and an inner table is closed again -/
theorem complete_wholeDocument_frame :
    Offers ⟨PropertyMap.builtin, 19⟩ none "-- e(Frame, \x7b x = \x7b\x7d, ".toList 22
      ⟨3, 12, "Frame"⟩ (PropertyMap.guiObject ++ ["AutomaticSize"]) ∧
    Completer.complete ⟨PropertyMap.builtin, 19⟩ none "-- e(Frame, \x7b x = \x7b\x7d, ".toList 22 =
      completionsFor "Frame" (PropertyMap.guiObject ++ ["AutomaticSize"]) ∧
    ∀ o : Nat, o ≤ 22 →
      ((lastCallBefore? "-- e(Frame, \x7b x = \x7b\x7d, ".toList o = some ⟨3, 12, "Frame"⟩ ∧
        Completer.complete {} none "-- e(Frame, \x7b x = \x7b\x7d, ".toList o =
          completionsFor "Frame" (PropertyMap.guiObject ++ ["AutomaticSize"])) ↔
        12 < o ∧ o ≤ 22) := by
  have hoffers : Offers ⟨PropertyMap.builtin, 19⟩ none "-- e(Frame, \x7b x = \x7b\x7d, ".toList 22
      ⟨3, 12, "Frame"⟩ (PropertyMap.guiObject ++ ["AutomaticSize"]) :=
    ⟨by decide +kernel, by decide, by decide +kernel, by decide,
      (staysOpen_slice_iff (by decide) (by decide)).1 (by decide +kernel)⟩
  refine ⟨hoffers, ?_, ?_⟩
  · exact ((complete_wholeDocument ⟨PropertyMap.builtin, 19⟩ none _).1 22
      (Or.inr (Or.inr ⟨' ', by decide +kernel, by decide +kernel⟩))).1 _ _ hoffers
  · have h := (complete_wholeDocument {} none "-- e(Frame, \x7b x = \x7b\x7d, ".toList).2
      (by decide) ⟨3, 12, "Frame"⟩ (PropertyMap.guiObject ++ ["AutomaticSize"]) (by decide +kernel)
      (by decide +kernel) (by decide)
    have he : lastOffered "-- e(Frame, \x7b x = \x7b\x7d, ".toList ⟨3, 12, "Frame"⟩ = 22 := by
      decide +kernel
    rw [he] at h
    exact h.2.2

end ElementProps

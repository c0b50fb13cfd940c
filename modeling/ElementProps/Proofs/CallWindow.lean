import ElementProps.Completer
import ElementProps.Proofs.CallScan

/-!
# Element calls in a part of a text

Completion reads only a part of the text before the cursor. The calls that it finds there are calls
of the text, with one exception: where the cut falls inside a word, the rest of the word may look
like a constructor.

* `ElementCall.shift s n`      the same call with `n` more characters in front;
* `wordBefore t a`             the character before the offset `a` belongs to a word;
* `isCall_slice_iff`           the calls of a part, the exception apart, are the calls of the text;
* `lastCallBefore? t o`        the last call of the text whose brace stands before an offset;
* `findIn_slice`, `findIn_slice_none`   what completion finds in a part depends on that call only.
-/

namespace ElementProps

/-! ## parts of a text -/

def ElementCall.shift (s : ElementCall) (n : Nat) : ElementCall :=
  ⟨s.start + n, s.brace + n, s.className⟩

def wordBefore (t : Text) (a : Nat) : Bool := (t.take a).getLast?.any Text.isWord

theorem length_slice {t : Text} {a b : Nat} (hb : b ≤ t.length) : (slice t a b).length = b - a := by
  rw [slice, List.length_drop, List.length_take]
  omega

theorem slice_slice {t : Text} {a b i j : Nat} (h : j + a ≤ b) :
    slice (slice t a b) i j = slice t (i + a) (j + a) := by
  rw [slice, slice, slice, List.take_drop, List.take_take, List.drop_drop,
    Nat.min_eq_left (by omega), Nat.add_comm a j, Nat.add_comm a i]

theorem getElem?_slice {t : Text} {a b i : Nat} (h : i + a < b) :
    (slice t a b)[i]? = t[i + a]? := by
  rw [slice, List.getElem?_drop, List.getElem?_take, if_pos (by omega), Nat.add_comm]

theorem drop_slice (t : Text) (a b i : Nat) : (slice t a b).drop i = slice t (i + a) b := by
  rw [slice, slice, List.drop_drop, Nat.add_comm]

theorem wordBefore_eq_false_iff {t : Text} {a : Nat} (ha : a ≤ t.length) :
    wordBefore t a = false ↔ a = 0 ∨ ∃ c, t[a - 1]? = some c ∧ Text.isWord c = false := by
  have hl : (t.take a).length = a := by rw [List.length_take]; omega
  have h := fresh_iff_getLast? (t.take a) (t.drop a)
  rw [List.take_append_drop, hl] at h
  exact h.symm

/-! ## calls of a part -/

theorem IsCall.start_lt_brace {t : Text} {s : ElementCall} (h : IsCall t s) :
    s.start < s.brace := by
  obtain ⟨p, u, r, -, htext, -, hstart, hbrace⟩ := isCall_iff_append.1 h
  obtain ⟨token, -, b, v, -, -, rfl⟩ := htext.split
  simp only [List.length_append, List.length_cons, List.length_nil] at hbrace
  omega

theorem fresh_slice_iff {t : Text} {a b i : Nat} (hb : b ≤ t.length) (hi : i + a < b) :
    ((i = 0 ∨ ∃ c, (slice t a b)[i - 1]? = some c ∧ Text.isWord c = false) ∧
      ¬ (i = 0 ∧ wordBefore t a = true)) ↔
        (i + a = 0 ∨ ∃ c, t[i + a - 1]? = some c ∧ Text.isWord c = false) := by
  cases i with
  | zero =>
    rw [Nat.zero_add, ← wordBefore_eq_false_iff (t := t) (by omega)]
    simp
  | succ i =>
    have h1 : i + 1 + a - 1 = i + a := by omega
    rw [Nat.add_sub_cancel, getElem?_slice (by omega), h1]
    simp

/-- The calls of a part of a text are calls of the text, except one at the very start of the part
whose constructor continues a word of the text. -/
theorem isCall_slice_iff {t : Text} {a b : Nat} (hb : b ≤ t.length) {s : ElementCall} :
    IsCall (slice t a b) s ∧ ¬ (s.start = 0 ∧ wordBefore t a = true) ↔
      IsCall t (s.shift a) ∧ s.brace + a < b := by
  constructor
  · rintro ⟨h, hcut⟩
    have hlt := h.brace_lt
    have hle := h.start_lt_brace
    rw [length_slice hb] at hlt
    have htext := h.text
    rw [slice_slice (by omega)] at htext
    refine ⟨⟨(fresh_slice_iff hb (by omega)).1 ⟨h.fresh, hcut⟩, ?_, ?_⟩, by omega⟩
    · show s.brace + a < t.length
      omega
    · show CallText s.className.toList (slice t (s.start + a) (s.brace + a + 1))
      rwa [Nat.add_right_comm s.brace a 1]
  · rintro ⟨h, hlt⟩
    have hle : s.start + a < s.brace + a := h.start_lt_brace
    obtain ⟨hfresh, hcut⟩ := (fresh_slice_iff hb (by omega)).2 h.fresh
    have htext : CallText s.className.toList (slice t (s.start + a) (s.brace + a + 1)) := h.text
    refine ⟨⟨hfresh, ?_, ?_⟩, hcut⟩
    · rw [length_slice hb]
      omega
    · rw [slice_slice (by omega), Nat.add_right_comm s.brace 1 a]
      exact htext

theorem exists_shift_of_le {a : Nat} {s : ElementCall} (ha : a ≤ s.start) (hb : a ≤ s.brace) :
    ∃ s' : ElementCall, s = s'.shift a := by
  refine ⟨⟨s.start - a, s.brace - a, s.className⟩, ?_⟩
  simp only [ElementCall.shift, Nat.sub_add_cancel ha, Nat.sub_add_cancel hb]

/-! ## the last call before an offset -/

/-- the last call of a text whose brace stands before an offset -/
def lastCallBefore? (t : Text) (o : Nat) : Option ElementCall :=
  ((elementCalls t).filter fun s => s.brace < o).getLast?

theorem lastCallBefore?_eq_some_iff {t : Text} {o : Nat} {s : ElementCall} :
    lastCallBefore? t o = some s ↔ (IsCall t s ∧ s.brace < o) ∧
      ∀ s', IsCall t s' → s'.brace < o → s'.start ≤ s.start := by
  rw [lastCallBefore?, getLast?_eq_some_iff_of_pairwise ((elementCalls_pairwise t).filter _)]
  simp only [List.mem_filter, mem_elementCalls, decide_eq_true_eq, and_imp]

theorem getLast?_elementCalls_eq_some_iff {t : Text} {s : ElementCall} :
    (elementCalls t).getLast? = some s ↔ IsCall t s ∧ ∀ s', IsCall t s' → s'.start ≤ s.start := by
  rw [getLast?_eq_some_iff_of_pairwise (elementCalls_pairwise t)]
  simp only [mem_elementCalls]

theorem getLast?_elementCalls_slice {t : Text} {a b : Nat} {s : ElementCall} (hb : b ≤ t.length)
    (h : lastCallBefore? t b = some (s.shift a)) :
    (elementCalls (slice t a b)).getLast? = some s := by
  obtain ⟨⟨hs, hlt⟩, hmax⟩ := lastCallBefore?_eq_some_iff.1 h
  refine getLast?_elementCalls_eq_some_iff.2 ⟨((isCall_slice_iff hb).2 ⟨hs, hlt⟩).1, ?_⟩
  intro s' hs'
  -- only a call at the start of the part can be no call of the text, and it is not later than `s`
  by_cases h0 : s'.start = 0
  · omega
  · obtain ⟨h1, h2⟩ := (isCall_slice_iff hb).1 ⟨hs', fun h => h0 h.1⟩
    have h3 : s'.start + a ≤ s.start + a := hmax _ h1 h2
    omega

theorem lastCallBefore?_of_slice {t : Text} {a b : Nat} {s : ElementCall} (hb : b ≤ t.length)
    (h : (elementCalls (slice t a b)).getLast? = some s)
    (hcut : ¬ (s.start = 0 ∧ wordBefore t a = true)) :
    lastCallBefore? t b = some (s.shift a) := by
  obtain ⟨hs, hmax⟩ := getLast?_elementCalls_eq_some_iff.1 h
  refine lastCallBefore?_eq_some_iff.2 ⟨(isCall_slice_iff hb).1 ⟨hs, hcut⟩, ?_⟩
  intro s' hs' hlt
  by_cases hle : a ≤ s'.start
  · have := hs'.start_lt_brace
    obtain ⟨s₁, rfl⟩ := exists_shift_of_le hle (by omega)
    have h1 := hmax s₁ ((isCall_slice_iff hb).2 ⟨hs', hlt⟩).1
    show s₁.start + a ≤ s.start + a
    omega
  · show s'.start ≤ s.start + a
    omega

theorem elementCalls_slice_eq_nil {t : Text} {a b : Nat} (hb : b ≤ t.length)
    (h : ∀ s, lastCallBefore? t b = some s → s.start < a) (hcut : wordBefore t a = false) :
    elementCalls (slice t a b) = [] := by
  rw [← List.getLast?_eq_none_iff, Option.eq_none_iff_forall_ne_some]
  intro s hs
  have h1 : s.start + a < a := h _ (lastCallBefore?_of_slice hb hs (by simp [hcut]))
  omega

/-! ## what completion finds in a part -/

/-- the finding in the table of a class, `rest` being what follows its brace -/
def findingInTable (builtin : PropertyMap) (user : Option PropertyMap) (className : String)
    (rest : Text) : Finding :=
  match PropertyMap.offered builtin user className with
  | none | some [] => .unknownClass className
  | some (p :: ps) =>
    if staysOpen 0 rest then .offer className (p :: ps) else .outsideTable className

/-- the last call of all is the last call of its class -/
theorem lastCallOf?_of_getLast? {t : Text} {s : ElementCall}
    (h : (elementCalls t).getLast? = some s) : lastCallOf? t s.className = some s := by
  obtain ⟨front, hf⟩ := List.getLast?_eq_some_iff.1 h
  rw [lastCallOf?, hf, List.filter_append]
  simp

theorem findIn_eq (builtin : PropertyMap) (user : Option PropertyMap) (w : Text) :
    findIn builtin user w = match (elementCalls w).getLast? with
      | none => .noCall
      | some s => findingInTable builtin user s.className (w.drop (s.brace + 1)) := by
  unfold findIn lastCall?
  cases h : (elementCalls w).getLast? with
  | none => rfl
  | some s =>
    have hin : insideTable w s.className = staysOpen 0 (w.drop (s.brace + 1)) := by
      rw [insideTable, lastCallOf?_of_getLast? h]
    simp only [Option.map_some, hin]
    rfl

theorem findIn_slice {builtin : PropertyMap} {user : Option PropertyMap} {t : Text} {a b : Nat}
    {s : ElementCall} (hb : b ≤ t.length) (h : lastCallBefore? t b = some s) (ha : a ≤ s.start) :
    findIn builtin user (slice t a b) =
      findingInTable builtin user s.className (slice t (s.brace + 1) b) := by
  have hlt := (lastCallBefore?_eq_some_iff.1 h).1.1.start_lt_brace
  obtain ⟨s₁, rfl⟩ := exists_shift_of_le ha (by omega)
  rw [findIn_eq, getLast?_elementCalls_slice hb h]
  show findingInTable builtin user s₁.className ((slice t a b).drop (s₁.brace + 1)) = _
  rw [drop_slice, Nat.add_right_comm]
  rfl

theorem findIn_slice_none {builtin : PropertyMap} {user : Option PropertyMap} {t : Text} {a b : Nat}
    (hb : b ≤ t.length) (h : ∀ s, lastCallBefore? t b = some s → s.start < a)
    (hcut : wordBefore t a = false) : findIn builtin user (slice t a b) = .noCall := by
  rw [findIn_eq, elementCalls_slice_eq_nil hb h hcut]
  rfl

end ElementProps

import ElementProps.Proofs.CallGrammar

/-!
# The scan for element calls

The scan goes from left to right and looks for no call inside one that it has found. Nothing is lost
by that: no call begins inside another.

* `IsCall t s`                  `s` is a place where the grammar of calls matches in `t`, and its
                                constructor does not continue a word;
* `callFrom? t i`               the call that begins at the offset `i`;
* `callFrom?_inside`            no call begins inside another;
* `elementCalls_eq_filterMap`   the scan finds the calls of all offsets, in their order;
* `elementCalls_exact`          the scan, the grammar and the last call together.
-/

namespace ElementProps

/-! ## calls in a text -/

/-- the part of a text from the offset `a` up to, and without, the offset `b` -/
def slice (t : Text) (a b : Nat) : Text := (t.take b).drop a

/-- a place where the grammar of calls matches, its constructor not continuing a word -/
structure IsCall (t : Text) (s : ElementCall) : Prop where
  fresh : s.start = 0 ∨ ∃ c, t[s.start - 1]? = some c ∧ Text.isWord c = false
  brace_lt : s.brace < t.length
  text : CallText s.className.toList (slice t s.start (s.brace + 1))

/-- the call that begins at an offset of a text -/
def callFrom? (t : Text) (i : Nat) : Option ElementCall :=
  (callAfter? (t.take i).getLast? (t.drop i)).map fun (name, r) =>
    ⟨i, t.length - r.length - 1, String.ofList name⟩

/-! ## the shape of a call -/

/-- a call begins with the first letter of a constructor -/
theorem CallText.head {name u : Text} (h : CallText name u) :
    ∃ c v, u = c :: v ∧ (c = 'R' ∨ c = 'e') := by
  obtain ⟨htoken, -, -, -, -, -, -⟩ := h
  simp only [constructors, List.mem_cons, List.not_mem_nil, or_false] at htoken
  rcases htoken with rfl | rfl
  · exact ⟨'R', _, rfl, Or.inl rfl⟩
  · exact ⟨'e', _, rfl, Or.inr rfl⟩

theorem ClassArgument.not_mem {name arg : Text} {m : Char} (hname : ClassName name)
    (harg : ClassArgument name arg) (hm : isNameChar m = false) (hd : m ≠ '"') (hs : m ≠ '\'') :
    m ∉ arg := by
  have hn : m ∉ name := fun h => by
    rw [hname.chars m h] at hm
    exact absurd hm (by decide)
  cases harg with
  | bare => exact hn
  | quoted q hq =>
    have hq' : m ≠ q := by rcases hq with rfl | rfl <;> assumption
    simp [hn, hq']

theorem Blanks.not_mem {b : Text} {m : Char} (hb : Blanks b) (hm : Text.isBlank m = false) :
    m ∉ b := fun h => by
  rw [hb m h] at hm
  exact absurd hm (by decide)

/-- A call is its constructor, blanks, and an opening parenthesis; after that comes no second one,
and the last character is the brace. -/
theorem CallText.split {name u : Text} (h : CallText name u) :
    ∃ token ∈ constructors, ∃ b v, Blanks b ∧ '(' ∉ v ∧
      u = token.toList ++ (b ++ '(' :: (v ++ ['{'])) := by
  obtain ⟨htoken, h₁, h₂, hname, harg, h₃, h₄⟩ := h
  rename_i token b₁ b₂ arg b₃ b₄
  refine ⟨token, htoken, b₁, b₂ ++ (arg ++ (b₃ ++ ',' :: b₄)), h₁, ?_, by simp⟩
  have hb : Text.isBlank '(' = false := by decide
  have ha := harg.not_mem hname (m := '(') (by decide) (by decide) (by decide)
  simp [h₂.not_mem hb, h₃.not_mem hb, h₄.not_mem hb, ha]

/-- before its opening parenthesis a call has no brace -/
theorem CallText.opening {name u : Text} (h : CallText name u) :
    ∃ x v, '{' ∉ x ∧ u = x ++ '(' :: v := by
  obtain ⟨token, htoken, b, v, hb, -, rfl⟩ := h.split
  refine ⟨token.toList ++ b, v ++ ['{'], ?_, by simp⟩
  have ht : ∀ token ∈ constructors, '{' ∉ token.toList := by decide
  simp [ht token htoken, hb.not_mem (by decide : Text.isBlank '{' = false)]

/-- of two different marks one comes first -/
theorem mark_ne_mark {m n : Char} (hmn : m ≠ n) {x y v w : Text} (hx : n ∉ x) (hy : m ∉ y) :
    x ++ m :: v ≠ y ++ n :: w := by
  induction x generalizing y with
  | nil =>
    intro h
    cases y with
    | nil => exact hmn (List.cons.inj h).1
    | cons c y => exact hy ((List.cons.inj h).1 ▸ List.mem_cons_self)
  | cons c x ih =>
    intro h
    cases y with
    | nil => exact hx ((List.cons.inj h).1 ▸ List.mem_cons_self)
    | cons d y =>
      exact ih (fun hn => hx (List.mem_cons_of_mem c hn)) (fun hm => hy (List.mem_cons_of_mem d hm))
        (List.cons.inj h).2

/-- inside a constructor, what looks like the start of a constructor continues a word -/
theorem isWord_before_of_constructor :
    ∀ token ∈ constructors, ∀ j < token.toList.length, 0 < j →
      (token.toList[j]? = some 'R' ∨ token.toList[j]? = some 'e') →
        (token.toList.take j).getLast?.any Text.isWord = true := by
  decide

/-- **No call begins inside another.** Up to its parenthesis a call is a constructor and blanks, and
there every possible start continues a word; after it, a second call would need a parenthesis
before the brace. -/
theorem CallText.not_inside {name u name' u' r r' : Text} {j : Nat} (h : CallText name u)
    (h' : CallText name' u') (hj : 0 < j) (hju : j < u.length) (he : (u ++ r).drop j = u' ++ r') :
    ((u ++ r).take j).getLast?.any Text.isWord = true := by
  obtain ⟨token, htoken, b, v, hb, hv, rfl⟩ := h.split
  obtain ⟨c, w, rfl, hc⟩ := h'.head
  simp only [List.append_assoc, List.cons_append, List.nil_append] at he ⊢
  by_cases h1 : j < token.toList.length
  · -- inside the constructor
    rw [List.drop_append_of_le_length (by omega)] at he
    rw [List.take_append_of_le_length (by omega)]
    refine isWord_before_of_constructor token htoken j h1 hj ?_
    have hget : token.toList[j]? = some c := by
      have h2 := congrArg List.head? he
      rw [List.head?_append, List.head?_drop] at h2
      rw [List.getElem?_eq_getElem h1] at h2 ⊢
      exact h2
    rcases hc with rfl | rfl
    · exact Or.inl hget
    · exact Or.inr hget
  · exfalso
    obtain ⟨i, rfl⟩ : ∃ i, j = token.toList.length + i := ⟨j - token.toList.length, by omega⟩
    rw [List.drop_length_add_append] at he
    by_cases h2 : i < b.length
    · -- among the blanks
      rw [List.drop_append_of_le_length (by omega), List.drop_eq_getElem_cons h2] at he
      have hbl : Text.isBlank c = true := by
        rw [← (List.cons.inj he).1]
        exact hb _ (List.getElem_mem h2)
      rcases hc with rfl | rfl
      · exact absurd hbl (by decide)
      · exact absurd hbl (by decide)
    · obtain ⟨k, rfl⟩ : ∃ k, i = b.length + k := ⟨i - b.length, by omega⟩
      rw [List.drop_length_add_append] at he
      cases k with
      | zero =>
        -- at the parenthesis
        obtain ⟨rfl, -⟩ := List.cons.inj he
        exact absurd hc (by decide)
      | succ k =>
        -- after it: the brace comes before the next parenthesis
        obtain ⟨x, y, hx, hxy⟩ := h'.opening
        have hk : k ≤ v.length := by
          simp only [List.length_append, List.length_cons, List.length_nil] at hju
          omega
        rw [List.drop_succ_cons, List.drop_append_of_le_length hk, ← List.cons_append, hxy,
          List.append_assoc] at he
        exact mark_ne_mark (by decide) (fun hp => hv (List.mem_of_mem_drop hp)) hx he

/-! ## calls by offset -/

theorem slice_append (p u r : Text) :
    slice (p ++ (u ++ r)) p.length (p.length + u.length) = u := by
  rw [slice, List.take_length_add_append, List.take_left', List.drop_left' rfl]
  rfl

theorem eq_append_slice {t : Text} {a b : Nat} (hab : a ≤ b) :
    t = t.take a ++ (slice t a b ++ t.drop b) := by
  have h : t.take a ++ slice t a b = t.take b := by
    have h1 := List.take_append_drop a (t.take b)
    rw [List.take_take, Nat.min_eq_left hab] at h1
    exact h1
  rw [← List.append_assoc, h, List.take_append_drop]

theorem fresh_iff_getLast? (p x : Text) :
    (p.length = 0 ∨ ∃ c, (p ++ x)[p.length - 1]? = some c ∧ Text.isWord c = false) ↔
      p.getLast?.any Text.isWord = false := by
  obtain rfl | ⟨q, d, rfl⟩ := List.eq_nil_or_concat p
  · simp
  · simp

/-- a call of a text, by what stands before it, in it and after it -/
theorem isCall_iff_append {t : Text} {s : ElementCall} :
    IsCall t s ↔ ∃ p u r, t = p ++ (u ++ r) ∧ CallText s.className.toList u ∧
      p.getLast?.any Text.isWord = false ∧ s.start = p.length ∧
      s.brace + 1 = p.length + u.length := by
  constructor
  · rintro ⟨hfresh, hlt, htext⟩
    have hle : s.start ≤ s.brace + 1 := by
      obtain ⟨c, v, hcv, -⟩ := htext.head
      have hl := congrArg List.length hcv
      rw [slice, List.length_drop, List.length_take, List.length_cons] at hl
      omega
    have hp : (t.take s.start).length = s.start := by rw [List.length_take]; omega
    have ht := eq_append_slice (t := t) hle
    refine ⟨t.take s.start, slice t s.start (s.brace + 1), t.drop (s.brace + 1), ht, htext, ?_,
      hp.symm, ?_⟩
    · rw [← fresh_iff_getLast? _ (slice t s.start (s.brace + 1) ++ t.drop (s.brace + 1)), ← ht, hp]
      exact hfresh
    · rw [hp, slice, List.length_drop, List.length_take]
      omega
  · rintro ⟨p, u, r, rfl, htext, hfresh, hstart, hbrace⟩
    refine ⟨?_, ?_, ?_⟩
    · rw [hstart]
      exact (fresh_iff_getLast? p (u ++ r)).2 hfresh
    · rw [List.length_append, List.length_append]
      omega
    · rw [hstart, hbrace, slice_append]
      exact htext

theorem callAfter?_eq_some_iff {before : Option Char} {t name r : Text} :
    callAfter? before t = some (name, r) ↔
      before.any Text.isWord = false ∧ ∃ u, CallText name u ∧ t = u ++ r := by
  unfold callAfter?
  split
  · next h => simp [h]
  · next h => rw [callAt?_eq_some_iff]; simp [h]

theorem callFrom?_eq_some_iff {t : Text} {i : Nat} {s : ElementCall} :
    callFrom? t i = some s ↔ IsCall t s ∧ s.start = i := by
  rw [callFrom?, Option.map_eq_some_iff, isCall_iff_append]
  constructor
  · rintro ⟨⟨name, r⟩, h, rfl⟩
    obtain ⟨hfresh, u, htext, hu⟩ := callAfter?_eq_some_iff.1 h
    obtain ⟨c, v, rfl, -⟩ := htext.head
    have hlen := congrArg List.length hu
    rw [List.length_drop, List.length_append, List.length_cons] at hlen
    have hp : (t.take i).length = i := by rw [List.length_take]; omega
    refine ⟨⟨t.take i, c :: v, r, ?_, ?_, hfresh, hp.symm, ?_⟩, rfl⟩
    · rw [← hu, List.take_append_drop]
    · rw [String.toList_ofList]
      exact htext
    · show t.length - r.length - 1 + 1 = (t.take i).length + (c :: v).length
      rw [hp, List.length_cons]
      omega
  · rintro ⟨⟨p, u, r, rfl, htext, hfresh, hstart, hbrace⟩, rfl⟩
    refine ⟨(s.className.toList, r), ?_, ?_⟩
    · rw [hstart, List.take_left, List.drop_left]
      exact callAfter?_eq_some_iff.2 ⟨hfresh, u, htext, rfl⟩
    · obtain ⟨start, brace, className⟩ := s
      simp only [ElementCall.mk.injEq, true_and, String.ofList_toList, and_true]
      rw [List.length_append, List.length_append]
      simp only at hbrace
      omega

theorem callFrom?_inside {t : Text} {s : ElementCall} {i : Nat} (h : IsCall t s)
    (hlo : s.start < i) (hhi : i ≤ s.brace) : callFrom? t i = none := by
  rw [Option.eq_none_iff_forall_ne_some]
  intro s' h'
  obtain ⟨hc', rfl⟩ := callFrom?_eq_some_iff.1 h'
  obtain ⟨p, u, r, ht, htext, -, hstart, hbrace⟩ := isCall_iff_append.1 h
  obtain ⟨p', u', r', ht', htext', hfresh', hstart', -⟩ := isCall_iff_append.1 hc'
  -- the second call lies `j` characters into the first
  obtain ⟨j, hj⟩ : ∃ j, p'.length = p.length + j := ⟨p'.length - p.length, by omega⟩
  have hp' : p' = p ++ (u ++ r).take j := by
    have h1 := congrArg (List.take p'.length) (ht.symm.trans ht')
    rw [List.take_left, hj, List.take_length_add_append] at h1
    exact h1.symm
  have hrest : (u ++ r).drop j = u' ++ r' := by
    have h1 := congrArg (List.drop p'.length) (ht.symm.trans ht')
    rw [List.drop_left, hj, List.drop_length_add_append] at h1
    exact h1
  have hw := htext.not_inside htext' (j := j) (by omega) (by omega) hrest
  rw [hp', List.getLast?_append] at hfresh'
  cases hl : ((u ++ r).take j).getLast? with
  | none => rw [hl] at hw; exact absurd hw (by simp)
  | some c =>
    rw [hl] at hw hfresh'
    exact absurd (hw.symm.trans hfresh') (by simp)

/-! ## the scan -/

theorem callFrom?_append (p : Text) (c : Char) (t : Text) :
    callFrom? (p ++ c :: t) p.length = (callAfter? p.getLast? (c :: t)).map fun (name, r) =>
      ⟨p.length, p.length + (t.length - r.length), String.ofList name⟩ := by
  rw [callFrom?, List.take_left, List.drop_left]
  cases hc : callAfter? p.getLast? (c :: t) with
  | none => rfl
  | some found =>
    obtain ⟨name, r⟩ := found
    obtain ⟨-, u, hu, he⟩ := callAfter?_eq_some_iff.1 hc
    have hr := length_of_callAt? (callAt?_eq_some_iff.2 ⟨u, hu, he⟩)
    rw [List.length_cons] at hr
    have hbrace : (p ++ c :: t).length - r.length - 1 = p.length + (t.length - r.length) := by
      rw [List.length_append, List.length_cons]
      omega
    simp only [Option.map_some, hbrace]

/-- The scan of the rest of a text finds the calls of all its offsets, provided that none begins
among the characters that it skips. -/
theorem elementCallsFrom_eq_filterMap (p t : Text) (skip : Nat)
    (h : ∀ j < skip, callFrom? (p ++ t) (p.length + j) = none) :
    elementCallsFrom p.getLast? p.length skip t =
      (List.range' p.length t.length).filterMap (callFrom? (p ++ t)) := by
  induction t generalizing p skip with
  | nil => rfl
  | cons c t ih =>
    have happ : p ++ c :: t = (p ++ [c]) ++ t := by simp
    have hlast : (p ++ [c]).getLast? = some c := by simp
    have hlen : (p ++ [c]).length = p.length + 1 := by simp
    have hstep : ∀ k, (∀ j < k, callFrom? (p ++ c :: t) (p.length + 1 + j) = none) →
        elementCallsFrom (some c) (p.length + 1) k t =
          (List.range' (p.length + 1) t.length).filterMap (callFrom? (p ++ c :: t)) := by
      intro k hk
      have h1 := ih (p ++ [c]) k
      rw [hlast, hlen, ← happ] at h1
      exact h1 hk
    rw [List.length_cons, List.range'_succ, List.filterMap_cons]
    cases skip with
    | succ k =>
      have h0 : callFrom? (p ++ c :: t) p.length = none := h 0 (Nat.succ_pos k)
      rw [h0]
      refine hstep k (fun j hj => ?_)
      rw [Nat.add_assoc, Nat.add_comm 1 j]
      exact h (j + 1) (Nat.succ_lt_succ hj)
    | zero =>
      have hcall := callFrom?_append p c t
      unfold elementCallsFrom
      cases hc : callAfter? p.getLast? (c :: t) with
      | none =>
        rw [hc] at hcall
        rw [hcall]
        exact hstep 0 (fun j hj => absurd hj (Nat.not_lt_zero j))
      | some found =>
        obtain ⟨name, rest⟩ := found
        rw [hc] at hcall
        rw [hcall]
        have hs := (callFrom?_eq_some_iff.1 hcall).1
        refine congrArg _ (hstep _ (fun j hj => callFrom?_inside hs ?_ ?_))
        · show p.length < p.length + 1 + j
          omega
        · show p.length + 1 + j ≤ p.length + (t.length - rest.length)
          omega

theorem elementCalls_eq_filterMap (t : Text) :
    elementCalls t = (List.range t.length).filterMap (callFrom? t) := by
  rw [List.range_eq_range']
  exact elementCallsFrom_eq_filterMap [] t 0 (fun j hj => absurd hj (Nat.not_lt_zero j))

theorem mem_elementCalls {t : Text} {s : ElementCall} : s ∈ elementCalls t ↔ IsCall t s := by
  rw [elementCalls_eq_filterMap, List.mem_filterMap]
  constructor
  · rintro ⟨i, -, hs⟩
    exact (callFrom?_eq_some_iff.1 hs).1
  · intro h
    have hlt : s.start < t.length := by
      obtain ⟨p, u, r, rfl, htext, -, hstart, -⟩ := isCall_iff_append.1 h
      obtain ⟨c, v, rfl, -⟩ := htext.head
      rw [hstart, List.length_append, List.length_append, List.length_cons]
      omega
    exact ⟨s.start, List.mem_range.2 hlt, callFrom?_eq_some_iff.2 ⟨h, rfl⟩⟩

theorem elementCalls_pairwise (t : Text) :
    (elementCalls t).Pairwise fun s s' => s.start < s'.start := by
  rw [elementCalls_eq_filterMap]
  refine List.Pairwise.filterMap _ (fun i j hij s hs s' hs' => ?_) List.pairwise_lt_range
  obtain ⟨-, rfl⟩ := callFrom?_eq_some_iff.1 hs
  obtain ⟨-, rfl⟩ := callFrom?_eq_some_iff.1 hs'
  exact hij

theorem IsCall.eq_of_start {t : Text} {s s' : ElementCall} (h : IsCall t s) (h' : IsCall t s')
    (he : s.start = s'.start) : s = s' := by
  have h1 := callFrom?_eq_some_iff.2 ⟨h, he⟩
  have h2 := callFrom?_eq_some_iff.2 ⟨h', rfl⟩
  exact Option.some.inj (h1.symm.trans h2)

theorem IsCall.brace_lt_start {t : Text} {s s' : ElementCall} (h : IsCall t s) (h' : IsCall t s')
    (hlt : s.start < s'.start) : s.brace < s'.start := by
  by_cases hle : s'.start ≤ s.brace
  · have h1 := callFrom?_inside h hlt hle
    rw [callFrom?_eq_some_iff.2 ⟨h', rfl⟩] at h1
    exact absurd h1 (by simp)
  · omega

/-! ## the last call -/

/-- the last entry of a list that grows in a measure is the one with the greatest measure -/
theorem getLast?_eq_some_iff_of_pairwise {l : List ElementCall} {s : ElementCall}
    (hl : l.Pairwise fun s s' => s.start < s'.start) :
    l.getLast? = some s ↔ s ∈ l ∧ ∀ s' ∈ l, s'.start ≤ s.start := by
  constructor
  · intro h
    obtain ⟨front, rfl⟩ := List.getLast?_eq_some_iff.1 h
    have hp := (List.pairwise_append.1 hl).2.2
    refine ⟨by simp, fun s' hs' => ?_⟩
    rcases List.mem_append.1 hs' with hs' | hs'
    · exact Nat.le_of_lt (hp s' hs' s (List.mem_singleton_self s))
    · obtain rfl := List.mem_singleton.1 hs'
      exact Nat.le_refl _
  · rintro ⟨hs, hmax⟩
    obtain ⟨front, back, rfl⟩ := List.append_of_mem hs
    cases back with
    | nil => simp
    | cons s' back =>
      have hp := (List.pairwise_append.1 hl).2.1
      have hlt := (List.pairwise_cons.1 hp).1 s' List.mem_cons_self
      have hle := hmax s' (by simp)
      omega

theorem lastCall?_eq_some_iff {t : Text} {name : String} :
    lastCall? t = some name ↔ ∃ s, IsCall t s ∧ s.className = name ∧
      ∀ s', IsCall t s' → s'.start ≤ s.start := by
  rw [lastCall?, Option.map_eq_some_iff]
  simp only [getLast?_eq_some_iff_of_pairwise (elementCalls_pairwise t), mem_elementCalls]
  constructor
  · rintro ⟨s, ⟨hs, hmax⟩, hn⟩
    exact ⟨s, hs, hn, hmax⟩
  · rintro ⟨s, hs, hn, hmax⟩
    exact ⟨s, ⟨hs, hmax⟩, hn⟩

theorem lastCall?_eq_none_iff {t : Text} : lastCall? t = none ↔ ∀ s, ¬ IsCall t s := by
  rw [lastCall?, Option.map_eq_none_iff, List.getLast?_eq_none_iff, List.eq_nil_iff_forall_not_mem]
  simp only [mem_elementCalls]

/-- **The scan finds exactly the calls of the grammar.** They come in the order of their starts; a
start fixes its brace and its class; the spans of two calls are disjoint; and the last call is the
one with the greatest start. -/
theorem elementCalls_exact (t : Text) :
    (elementCalls t).Pairwise (fun s s' => s.start < s'.start) ∧
    (∀ s, s ∈ elementCalls t ↔ IsCall t s) ∧
    (∀ s s', IsCall t s → IsCall t s' → s.start = s'.start → s = s') ∧
    (∀ s s', IsCall t s → IsCall t s' → s ≠ s' → s.brace < s'.start ∨ s'.brace < s.start) ∧
    (∀ name, lastCall? t = some name ↔ ∃ s, IsCall t s ∧ s.className = name ∧
      ∀ s', IsCall t s' → s'.start ≤ s.start) ∧
    (lastCall? t = none ↔ ∀ s, ¬ IsCall t s) := by
  refine ⟨elementCalls_pairwise t, fun s => mem_elementCalls, fun s s' => IsCall.eq_of_start,
    fun s s' h h' hne => ?_, fun name => lastCall?_eq_some_iff, lastCall?_eq_none_iff⟩
  rcases Nat.lt_trichotomy s.start s'.start with hlt | he | hgt
  · exact Or.inl (h.brace_lt_start h' hlt)
  · exact absurd (h.eq_of_start h' he) hne
  · exact Or.inr (h'.brace_lt_start h hgt)

/-- a class named like a constructor hides nothing: both calls are found, one after the other -/
theorem elementCalls_exact_nested :
    IsCall "React.createElement('e', \x7b e (X ,\x7b".toList ⟨0, 25, "e"⟩ ∧
    IsCall "React.createElement('e', \x7b e (X ,\x7b".toList ⟨27, 33, "X"⟩ ∧
    (25 < 27 ∨ 33 < 0) ∧
    lastCall? "React.createElement('e', \x7b e (X ,\x7b".toList = some "X" := by
  have h := elementCalls_exact "React.createElement('e', \x7b e (X ,\x7b".toList
  have h1 := (h.2.1 ⟨0, 25, "e"⟩).1 (by decide +kernel)
  have h2 := (h.2.1 ⟨27, 33, "X"⟩).1 (by decide +kernel)
  exact ⟨h1, h2, h.2.2.2.1 _ _ h1 h2 (by decide), by decide +kernel⟩

end ElementProps

import ElementProps.Proofs.CallWindow

/-!
# Element calls of two texts one after the other

The scan resumes after each call that it finds, and it looks one character back. Still the calls of
`p ++ w` come in three parts: the calls of `p`, at most one call across the border, and the calls of
`w`. The border takes away one call of `w` at most, the one at its very start, when `p` ends inside a
word.

* `joinsWord p s`             a call `s` of the second text would continue a word of the first;
* `callFrom?_append_left`     an offset of `p` begins a call of `p` when that call ends in `p`;
* `callFrom?_append_right`    an offset of `w` begins the same call behind `p`, the start apart;
* `filter_append_of_disjoint` of calls that are disjoint at most one reaches across a border;
* `elementCalls_append`       the three parts, and what follows for typing and cutting.
-/

namespace ElementProps

section
variable (p w : Text)

/-! ## calls by their offsets -/

theorem slice_left : slice (p ++ w) 0 p.length = p := by
  rw [slice, List.take_left, List.drop_zero]

theorem slice_right : slice (p ++ w) p.length (p ++ w).length = w := by
  rw [slice, List.take_length, List.drop_left]

def joinsWord (s : ElementCall) : Bool := s.start == 0 && p.getLast?.any Text.isWord

theorem joinsWord_iff {s : ElementCall} :
    joinsWord p s = true ↔ s.start = 0 ∧ wordBefore (p ++ w) p.length = true := by
  rw [joinsWord, Bool.and_eq_true, beq_iff_eq, wordBefore, List.take_left]

theorem isCall_left_iff {s : ElementCall} :
    IsCall p s ↔ IsCall (p ++ w) s ∧ s.brace < p.length := by
  have hle : p.length ≤ (p ++ w).length := by
    rw [List.length_append]
    omega
  have h := isCall_slice_iff (a := 0) hle (s := s)
  rw [slice_left] at h
  refine Iff.trans ⟨fun hs => ⟨hs, ?_⟩, And.left⟩ h
  -- nothing stands before the first text
  intro hcut
  exact absurd hcut.2 (by simp [wordBefore])

theorem isCall_right_iff {s : ElementCall} :
    IsCall w s ∧ (!joinsWord p s) = true ↔ IsCall (p ++ w) (s.shift p.length) := by
  have h := isCall_slice_iff (t := p ++ w) (a := p.length) (Nat.le_refl _) (s := s)
  rw [slice_right, ← joinsWord_iff, Bool.not_eq_true, ← Bool.not_eq_true'] at h
  exact h.trans ⟨And.left, fun hs => ⟨hs, hs.brace_lt⟩⟩

theorem callFrom?_append_left (i : Nat) :
    (callFrom? (p ++ w) i).filter (fun s => s.brace < p.length) = callFrom? p i := by
  apply Option.ext
  intro s
  rw [Option.filter_eq_some_iff, callFrom?_eq_some_iff, callFrom?_eq_some_iff, decide_eq_true_eq,
    isCall_left_iff p w]
  exact and_right_comm

theorem callFrom?_append_right (i : Nat) :
    callFrom? (p ++ w) (p.length + i) =
      ((callFrom? w i).filter fun s => !joinsWord p s).map (·.shift p.length) := by
  apply Option.ext
  intro s
  rw [callFrom?_eq_some_iff, Option.map_eq_some_iff]
  constructor
  · rintro ⟨hs, hstart⟩
    have hlt := hs.start_lt_brace
    obtain ⟨s, rfl⟩ := exists_shift_of_le (a := p.length) (s := s) (by omega) (by omega)
    obtain ⟨hw, hcut⟩ := (isCall_right_iff p w).2 hs
    have hi : s.start + p.length = p.length + i := hstart
    refine ⟨s, ?_, rfl⟩
    rw [Option.filter_eq_some_iff, callFrom?_eq_some_iff]
    exact ⟨⟨hw, by omega⟩, hcut⟩
  · rintro ⟨s, hs, rfl⟩
    rw [Option.filter_eq_some_iff, callFrom?_eq_some_iff] at hs
    obtain ⟨⟨hw, rfl⟩, hcut⟩ := hs
    exact ⟨(isCall_right_iff p w).1 ⟨hw, hcut⟩, Nat.add_comm ..⟩

/-! ## the two sides of the border -/

/-- the calls of `p ++ w` that begin in `p` -/
def callsBefore : List ElementCall := (List.range p.length).filterMap (callFrom? (p ++ w))

/-- the calls of `p ++ w` that begin in `w`, with their offsets in `w` -/
def callsBehind : List ElementCall := (elementCalls w).filter fun s => !joinsWord p s

theorem elementCalls_eq_before_behind :
    elementCalls (p ++ w) = callsBefore p w ++ (callsBehind p w).map (·.shift p.length) := by
  rw [elementCalls_eq_filterMap, List.length_append, List.range_add, List.filterMap_append,
    callsBehind, elementCalls_eq_filterMap w, List.filter_filterMap, List.map_filterMap,
    List.filterMap_map]
  congr 2
  funext i
  exact callFrom?_append_right p w i

theorem start_lt_of_mem_callsBefore {s : ElementCall} (h : s ∈ callsBefore p w) :
    s.start < p.length := by
  obtain ⟨i, hi, hs⟩ := List.mem_filterMap.1 h
  rw [(callFrom?_eq_some_iff.1 hs).2]
  exact List.mem_range.1 hi

theorem le_start_of_mem_shift {l : List ElementCall} {n : Nat} {s : ElementCall}
    (h : s ∈ l.map (·.shift n)) : n ≤ s.start := by
  obtain ⟨s, -, rfl⟩ := List.mem_map.1 h
  exact Nat.le_add_left n s.start

theorem filter_callsBefore :
    (callsBefore p w).filter (fun s => s.brace < p.length) = elementCalls p := by
  rw [callsBefore, List.filter_filterMap, elementCalls_eq_filterMap p]
  congr 1
  funext i
  exact callFrom?_append_left p w i

theorem elementCalls_disjoint (t : Text) :
    (elementCalls t).Pairwise fun s s' => s.brace < s'.start := by
  apply (elementCalls_pairwise t).imp_of_mem
  intro s s' hs hs' hlt
  exact (mem_elementCalls.1 hs).brace_lt_start (mem_elementCalls.1 hs') hlt

/-- Of disjoint calls that begin before a border, only the last can reach across it. -/
theorem filter_append_of_disjoint {l : List ElementCall} {n : Nat}
    (hl : l.Pairwise fun s s' => s.brace < s'.start) (hn : ∀ s ∈ l, s.start < n) :
    l.filter (fun s => s.brace < n) ++ l.filter (fun s => n ≤ s.brace) = l ∧
      (l.filter fun s => n ≤ s.brace).length ≤ 1 := by
  induction l with
  | nil => exact ⟨rfl, Nat.zero_le 1⟩
  | cons s l ih =>
    obtain ⟨hs, hl⟩ := List.pairwise_cons.1 hl
    by_cases hb : s.brace < n
    · obtain ⟨happ, hlen⟩ := ih hl fun s' hs' => hn s' (List.mem_cons_of_mem s hs')
      have hb' : ¬ n ≤ s.brace := by omega
      simp only [List.filter_cons, hb, hb', decide_true, decide_false, if_true, Bool.false_eq_true,
        if_false, List.cons_append, happ]
      exact ⟨trivial, hlen⟩
    · -- a call after `s` would begin behind the border
      have hnil : l = [] := by
        rw [List.eq_nil_iff_forall_not_mem]
        intro s' hs'
        have h1 := hs s' hs'
        have h2 := hn s' (List.mem_cons_of_mem s hs')
        omega
      have hb' : n ≤ s.brace := by omega
      subst hnil
      simp [hb, hb']

/-! ## the parts together -/

theorem filter_eq_elementCalls_left :
    (elementCalls (p ++ w)).filter (fun s => s.brace < p.length) = elementCalls p := by
  have hnone : ((callsBehind p w).map (·.shift p.length)).filter
      (fun s => s.brace < p.length) = [] := by
    rw [List.filter_eq_nil_iff]
    intro s hs
    obtain ⟨s, -, rfl⟩ := List.mem_map.1 hs
    show ¬ decide (s.brace + p.length < p.length) = true
    rw [decide_eq_true_eq]
    omega
  rw [elementCalls_eq_before_behind, List.filter_append, hnone, List.append_nil,
    filter_callsBefore]

theorem filter_eq_callsBehind :
    (elementCalls (p ++ w)).filter (fun s => p.length ≤ s.start) =
      (callsBehind p w).map (·.shift p.length) := by
  have hnone : (callsBefore p w).filter (fun s => p.length ≤ s.start) = [] := by
    rw [List.filter_eq_nil_iff]
    intro s hs
    have := start_lt_of_mem_callsBefore p w hs
    rw [decide_eq_true_eq]
    omega
  have hall : ((callsBehind p w).map (·.shift p.length)).filter (fun s => p.length ≤ s.start) =
      (callsBehind p w).map (·.shift p.length) := by
    rw [List.filter_eq_self]
    intro s hs
    exact decide_eq_true (le_start_of_mem_shift hs)
  rw [elementCalls_eq_before_behind, List.filter_append, hnone, hall, List.nil_append]

theorem filter_start_pos_callsBehind :
    (callsBehind p w).filter (fun s => 0 < s.start) =
      (elementCalls w).filter fun s => 0 < s.start := by
  rw [callsBehind, List.filter_filter]
  congr 1
  funext s
  cases hs : decide (0 < s.start) with
  | false => rfl
  | true =>
    have hne : (s.start == 0) = false := by
      rw [beq_eq_false_iff_ne]
      have := of_decide_eq_true hs
      omega
    rw [joinsWord, hne]
    rfl

theorem filter_eq_elementCalls_right :
    (elementCalls (p ++ w)).filter (fun s => p.length < s.start) =
      ((elementCalls w).filter fun s => 0 < s.start).map (·.shift p.length) := by
  have hsplit : (elementCalls (p ++ w)).filter (fun s => p.length < s.start) =
      ((elementCalls (p ++ w)).filter fun s => p.length ≤ s.start).filter
        fun s => p.length < s.start := by
    rw [List.filter_filter]
    congr 1
    funext s
    by_cases h : p.length < s.start
    · simp [h, Nat.le_of_lt h]
    · simp [h]
  rw [hsplit, filter_eq_callsBehind, List.filter_map, ← filter_start_pos_callsBehind p w]
  congr 2
  funext s
  show decide (p.length < s.start + p.length) = decide (0 < s.start)
  congr 1
  rw [eq_iff_iff]
  omega

end

/-- **Calls of two texts one after the other.** The calls of `p ++ w` that end in `p` are the calls
of `p`; those that begin in `w` are the calls of `w`, except one at its start when `p` ends inside a
word; at most one call lies between them. So what follows `p` has no say in the calls that end in
`p`, and what precedes `w` has none in the calls that begin after its first character. -/
theorem elementCalls_append (p w : Text) :
    (elementCalls (p ++ w)).filter (fun s => s.brace < p.length) = elementCalls p ∧
    (elementCalls (p ++ w)).filter (fun s => p.length ≤ s.start) =
      ((elementCalls w).filter fun s => !(s.start == 0 && p.getLast?.any Text.isWord)).map
        (fun s => ⟨s.start + p.length, s.brace + p.length, s.className⟩) ∧
    (∃ across : List ElementCall, across.length ≤ 1 ∧
      elementCalls (p ++ w) = elementCalls p ++ across ++
        (elementCalls (p ++ w)).filter fun s => p.length ≤ s.start) ∧
    (∀ w', (elementCalls (p ++ w')).filter (fun s => s.brace < p.length) =
      (elementCalls (p ++ w)).filter fun s => s.brace < p.length) ∧
    (∀ p' : Text, ((elementCalls (p' ++ w)).filter (fun s => p'.length < s.start)).map
        (fun s => ⟨s.start - p'.length, s.brace - p'.length, s.className⟩) =
      (elementCalls w).filter fun s => 0 < s.start) := by
  refine ⟨filter_eq_elementCalls_left p w, filter_eq_callsBehind p w, ?_, fun w' => ?_,
    fun p' => ?_⟩
  · have happ := elementCalls_eq_before_behind p w
    have hdis := elementCalls_disjoint (p ++ w)
    rw [happ] at hdis
    obtain ⟨hparts, hlen⟩ := filter_append_of_disjoint (List.pairwise_append.1 hdis).1
      fun s hs => start_lt_of_mem_callsBefore p w hs
    refine ⟨_, hlen, ?_⟩
    rw [filter_eq_callsBehind, ← filter_callsBefore p w, hparts]
    exact happ
  · rw [filter_eq_elementCalls_left, filter_eq_elementCalls_left]
  · rw [filter_eq_elementCalls_right, List.map_map]
    refine (List.map_congr_left fun s _ => ?_).trans (List.map_id _)
    show (⟨s.start + p'.length - p'.length, s.brace + p'.length - p'.length, s.className⟩ :
      ElementCall) = s
    rw [Nat.add_sub_cancel, Nat.add_sub_cancel]

-- the end of a word, and a call across the border
example : elementCalls ("Creat".toList ++ "e(A,\x7b e(B,\x7b".toList) = [⟨11, 15, "B"⟩] := by
  decide +kernel
example : elementCalls ("e(A,\x7b e(B".toList ++ ",\x7b".toList) =
    [⟨0, 4, "A"⟩, ⟨6, 10, "B"⟩] := by decide +kernel

end ElementProps

import ElementProps.Proofs.CallWindow

/-!
# The walk over the braces of a table

The walk keeps the number of tables that are open inside the table of a call. In terms of the text,
a table is closed at the first place where closing and opening braces, counted from its own brace,
are equal in number.

* `Balanced t b i`               from `b` to `i` there are equally many braces of both kinds;
* `staysOpen_slice_iff`          the walk finds a table open exactly when its braces never balance;
* `closing? t b`                 the partner of the brace at `b`: the first place where they
                                 balance;
* `getElem?_of_closing?`         a closing brace stands there.
-/

namespace ElementProps

/-- from the offset `b` to the offset `i`, both included, closing and opening braces are equal in
number -/
def Balanced (t : Text) (b i : Nat) : Prop :=
  (slice t b (i + 1)).count '}' = (slice t b (i + 1)).count '{'

instance (t : Text) (b i : Nat) : Decidable (Balanced t b i) :=
  inferInstanceAs (Decidable (_ = _))

/-! ## the walk and the counts -/

theorem staysOpen_iff_count {n : Nat} {x : Text} :
    staysOpen n x = true ↔
      ∀ j ≤ x.length, (x.take j).count '}' ≠ (x.take j).count '{' + n + 1 := by
  induction x generalizing n with
  | nil => simp [staysOpen]
  | cons c x ih =>
    -- the empty leading part never balances, and the others begin with `c`
    have hsplit : (∀ j ≤ (c :: x).length,
        ((c :: x).take j).count '}' ≠ ((c :: x).take j).count '{' + n + 1) ↔
        ∀ j ≤ x.length, (c :: x.take j).count '}' ≠ (c :: x.take j).count '{' + n + 1 := by
      constructor
      · intro h j hj
        exact h (j + 1) (Nat.succ_le_succ hj)
      · intro h j hj
        cases j with
        | zero => simp
        | succ j => exact h j (Nat.le_of_succ_le_succ hj)
    rw [hsplit, staysOpen]
    by_cases ho : c = '{'
    · subst ho
      rw [if_pos rfl, ih]
      simp only [List.count_cons_self, List.count_cons_of_ne (by decide : '{' ≠ '}')]
      refine forall₂_congr fun j _ => ?_
      omega
    · rw [if_neg ho]
      by_cases hc : c = '}'
      · subst hc
        rw [if_pos rfl, Bool.and_eq_true]
        simp only [List.count_cons_self, List.count_cons_of_ne (by decide : '}' ≠ '{')]
        cases n with
        | zero =>
          constructor
          · rintro ⟨h, -⟩
            exact absurd h (by decide)
          · intro h
            exact absurd rfl (h 0 (Nat.zero_le _))
        | succ n =>
          rw [Nat.add_sub_cancel, ih]
          constructor
          · rintro ⟨-, h⟩ j hj
            have := h j hj
            omega
          · intro h
            refine ⟨by simp, fun j hj => ?_⟩
            have := h j hj
            omega
      · rw [if_neg hc, ih]
        simp only [List.count_cons_of_ne ho, List.count_cons_of_ne hc]

theorem slice_eq_cons {t : Text} {b e : Nat} {c : Char} (hc : t[b]? = some c) (hbe : b < e) :
    slice t b e = c :: slice t (b + 1) e := by
  obtain ⟨hlt, rfl⟩ := List.getElem?_eq_some_iff.1 hc
  have hlt' : b < (t.take e).length := by rw [List.length_take]; omega
  rw [slice, List.drop_eq_getElem_cons hlt', List.getElem_take]
  rfl

theorem take_slice {t : Text} {a b j : Nat} (h : j + a ≤ b) :
    (slice t a b).take j = slice t a (j + a) := by
  rw [slice, List.take_drop, List.take_take, Nat.min_eq_left (by omega), Nat.add_comm]
  rfl

/-- A table is open at an offset exactly when its braces balance nowhere before it. -/
theorem staysOpen_slice_iff {t : Text} {b o : Nat} (hb : t[b]? = some '{') (ho : o ≤ t.length) :
    staysOpen 0 (slice t (b + 1) o) = true ↔ ∀ i, b < i → i < o → ¬ Balanced t b i := by
  rw [staysOpen_iff_count, length_slice ho]
  constructor
  · intro h i hbi hio hbal
    have h1 := h (i - b) (by omega)
    rw [take_slice (by omega), show i - b + (b + 1) = i + 1 by omega] at h1
    rw [Balanced, slice_eq_cons hb (by omega), List.count_cons_self,
      List.count_cons_of_ne (by decide)] at hbal
    exact h1 hbal
  · intro h j hj
    cases j with
    | zero => simp
    | succ j =>
      have h1 := h (b + j + 1) (by omega) (by omega)
      rw [Balanced, slice_eq_cons hb (by omega), List.count_cons_self,
        List.count_cons_of_ne (by decide)] at h1
      rw [take_slice (by omega), show j + 1 + (b + 1) = b + j + 1 + 1 by omega]
      exact h1

/-! ## the partner of a brace -/

/-- the partner of a brace: the first place at which the braces from it on balance -/
def closing? (t : Text) (b : Nat) : Option Nat :=
  (List.range t.length).find? fun i => b < i && decide (Balanced t b i)

theorem closing?_eq_some_iff {t : Text} {b i : Nat} :
    closing? t b = some i ↔ (b < i ∧ i < t.length ∧ Balanced t b i) ∧
      ∀ j, b < j → j < i → ¬ Balanced t b j := by
  rw [closing?, List.find?_range_eq_some]
  simp only [Bool.and_eq_true, decide_eq_true_eq, List.mem_range, Bool.not_eq_true',
    Bool.and_eq_false_imp, decide_eq_false_iff_not]
  constructor
  · rintro ⟨⟨h1, h2⟩, h3, h4⟩
    exact ⟨⟨h1, h3, h2⟩, fun j hbj hji => h4 j hji hbj⟩
  · rintro ⟨⟨h1, h3, h2⟩, h4⟩
    exact ⟨⟨h1, h2⟩, h3, fun j hji hbj => h4 j hbj hji⟩

theorem not_balanced_iff_closing? {t : Text} {b o : Nat} (ho : o ≤ t.length) :
    (∀ i, b < i → i < o → ¬ Balanced t b i) ↔ ∀ i, closing? t b = some i → o ≤ i := by
  constructor
  · intro h i hi
    obtain ⟨⟨hbi, -, hbal⟩, -⟩ := closing?_eq_some_iff.1 hi
    by_cases hio : i < o
    · exact absurd hbal (h i hbi hio)
    · omega
  · intro h i hbi hio hbal
    cases hc : closing? t b with
    | none =>
      rw [closing?, List.find?_eq_none] at hc
      have := hc i (List.mem_range.2 (by omega))
      simp [hbi, hbal] at this
    | some j =>
      have hoj := h j hc
      exact (closing?_eq_some_iff.1 hc).2 i hbi (by omega) hbal

theorem eq_brace_of_staysOpen {n : Nat} {x : Text} {c : Char} (h : staysOpen n x = true)
    (h' : staysOpen n (x ++ [c]) = false) : c = '}' := by
  fun_induction staysOpen n x with
  | case1 n =>
    by_cases ho : c = '{'
    · simp [staysOpen, ho] at h'
    · by_cases hc : c = '}'
      · exact hc
      · simp [staysOpen, ho, hc] at h'
  | case2 n x ih => exact ih h (by simpa [staysOpen] using h')
  | case3 n x hd ih =>
    obtain ⟨h0, h1⟩ := Bool.and_eq_true_iff.1 h
    refine ih h1 ?_
    rw [List.cons_append, staysOpen, if_neg hd, if_pos rfl, h0, Bool.true_and] at h'
    exact h'
  | case4 n d x hd hd' ih => exact ih h (by simpa [staysOpen, hd, hd'] using h')

theorem getElem?_of_closing? {t : Text} {b i : Nat} (hb : t[b]? = some '{')
    (h : closing? t b = some i) : t[i]? = some '}' := by
  obtain ⟨⟨hbi, hlt, hbal⟩, hmin⟩ := closing?_eq_some_iff.1 h
  have hopen : staysOpen 0 (slice t (b + 1) i) = true :=
    (staysOpen_slice_iff hb (by omega)).2 hmin
  have hclosed : staysOpen 0 (slice t (b + 1) (i + 1)) = false := by
    rw [← Bool.not_eq_true, staysOpen_slice_iff hb (by omega)]
    exact fun hno => hno i hbi (Nat.lt_succ_self i) hbal
  have hsnoc : slice t (b + 1) (i + 1) = slice t (b + 1) i ++ [t[i]] := by
    rw [slice, List.take_add_one, List.getElem?_eq_getElem hlt, List.drop_append_of_le_length]
    · rfl
    · rw [List.length_take]
      omega
  rw [hsnoc] at hclosed
  rw [List.getElem?_eq_getElem hlt, eq_brace_of_staysOpen hopen hclosed]

/-- the brace of a call -/
theorem IsCall.getElem?_brace {t : Text} {s : ElementCall} (h : IsCall t s) :
    t[s.brace]? = some '{' := by
  obtain ⟨p, u, r, rfl, htext, -, -, hbrace⟩ := isCall_iff_append.1 h
  obtain ⟨token, -, b, v, -, -, rfl⟩ := htext.split
  have hb : s.brace = (p ++ (token.toList ++ (b ++ '(' :: v))).length := by
    simp only [List.length_append, List.length_cons, List.length_nil] at hbrace ⊢
    omega
  have ht : p ++ (token.toList ++ (b ++ '(' :: (v ++ ['{'])) ++ r) =
      (p ++ (token.toList ++ (b ++ '(' :: v))) ++ '{' :: r := by simp
  rw [ht, hb, List.getElem?_append_right (Nat.le_refl _), Nat.sub_self]
  rfl

end ElementProps

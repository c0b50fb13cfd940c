import ElementProps.Proofs.BraceWalk

/-!
# The stack of open braces

The walk over the braces of a table begins at the brace of its call, in the middle of the text, and
counts. A pass over the whole text, which pairs every closing brace with the last open one, comes to
the same: what is open before the call stays below its brace on the stack, and what is opened after
it lies above.

* `openBraces t`                 the offsets of the braces of `t` without a partner, last one first;
* `mem_openBracesFrom_iff`       the count of the walk is the height of the stack above a brace;
* `mem_openBraces_iff`           a brace has no partner exactly when the walk from it finds none;
* `insideTable_iff_openBraces`   the table of a call is open exactly when its brace has no partner.
-/

namespace ElementProps

/-! ## one pass over a text -/

/-- the stack after the character at the offset `i`; a closing brace takes the top off, if there is
one -/
def braceStep (stack : List Nat) (i : Nat) (c : Char) : List Nat :=
  if c = '{' then i :: stack else if c = '}' then stack.tail else stack

/-- the stack after a text that begins at the offset `i` -/
def openBracesFrom (i : Nat) (stack : List Nat) : Text → List Nat
  | [] => stack
  | c :: t => openBracesFrom (i + 1) (braceStep stack i c) t

def openBraces (t : Text) : List Nat := openBracesFrom 0 [] t

theorem braceStep_open (stack : List Nat) (i : Nat) : braceStep stack i '{' = i :: stack := rfl
theorem braceStep_close (stack : List Nat) (i : Nat) : braceStep stack i '}' = stack.tail := rfl
theorem braceStep_other {c : Char} (ho : c ≠ '{') (hc : c ≠ '}') (stack : List Nat) (i : Nat) :
    braceStep stack i c = stack := by
  rw [braceStep, if_neg ho, if_neg hc]

theorem openBracesFrom_append (i : Nat) (stack : List Nat) (s t : Text) :
    openBracesFrom i stack (s ++ t) =
      openBracesFrom (i + s.length) (openBracesFrom i stack s) t := by
  induction s generalizing i stack with
  | nil => rfl
  | cons c s ih =>
    show openBracesFrom (i + 1) (braceStep stack i c) (s ++ t) = _
    rw [ih, List.length_cons, Nat.add_right_comm, Nat.add_assoc]
    rfl

theorem mem_braceStep {b i : Nat} {c : Char} {stack : List Nat} (h : b ∈ braceStep stack i c) :
    b ∈ stack ∨ b = i := by
  unfold braceStep at h
  split at h
  · exact (List.mem_cons.1 h).symm
  · split at h
    · exact Or.inl (List.mem_of_mem_tail h)
    · exact Or.inl h

theorem mem_openBracesFrom {b i : Nat} {stack : List Nat} {t : Text}
    (h : b ∈ openBracesFrom i stack t) : b ∈ stack ∨ i ≤ b ∧ b < i + t.length := by
  induction t generalizing i stack with
  | nil => exact Or.inl h
  | cons c t ih =>
    rw [List.length_cons]
    rcases ih h with hstep | hrest
    · rcases mem_braceStep hstep with hstack | rfl
      · exact Or.inl hstack
      · exact Or.inr (by omega)
    · exact Or.inr (by omega)

/-! ## the stack above a brace -/

/-- **The walk counts the stack above a brace.** With the offsets `inner` above it, a brace stays on
the stack to the end exactly when the text does not close a table that holds that many open ones. -/
theorem mem_openBracesFrom_iff {b i : Nat} {inner below : List Nat} {t : Text} (hi : b < i)
    (hinner : b ∉ inner) (hbelow : b ∉ below) :
    b ∈ openBracesFrom i (inner ++ b :: below) t ↔ staysOpen inner.length t = true := by
  induction t generalizing i inner with
  | nil =>
    show b ∈ inner ++ b :: below ↔ true = true
    simp
  | cons c t ih =>
    rw [openBracesFrom, staysOpen]
    by_cases ho : c = '{'
    · subst ho
      rw [if_pos rfl, braceStep_open]
      have hnot : b ∉ i :: inner := by
        intro hmem
        rcases List.mem_cons.1 hmem with rfl | hmem
        · exact Nat.lt_irrefl b hi
        · exact hinner hmem
      have hstep := ih (Nat.lt_succ_of_lt hi) hnot
      exact hstep
    · rw [if_neg ho]
      by_cases hc : c = '}'
      · subst hc
        rw [if_pos rfl, braceStep_close]
        cases inner with
        | nil =>
          -- the brace itself is taken off, and later offsets are greater
          show b ∈ openBracesFrom (i + 1) below t ↔ false = true
          constructor
          · intro h
            rcases mem_openBracesFrom h with hmem | hlater
            · exact absurd hmem hbelow
            · omega
          · intro h
            exact absurd h Bool.false_ne_true
        | cons x inner =>
          show b ∈ openBracesFrom (i + 1) (inner ++ b :: below) t ↔ staysOpen inner.length t = true
          exact ih (Nat.lt_succ_of_lt hi) fun hmem => hinner (List.mem_cons_of_mem x hmem)
      · rw [if_neg hc, braceStep_other ho hc]
        exact ih (Nat.lt_succ_of_lt hi) hinner

theorem mem_openBraces_iff {t : Text} {b : Nat} (hb : t[b]? = some '{') :
    b ∈ openBraces t ↔ staysOpen 0 (t.drop (b + 1)) = true := by
  obtain ⟨hlt, hget⟩ := List.getElem?_eq_some_iff.1 hb
  have hlen : (t.take b).length = b := by
    rw [List.length_take]
    omega
  have ht : t = t.take b ++ '{' :: t.drop (b + 1) := by
    rw [← hget, ← List.drop_eq_getElem_cons hlt, List.take_append_drop]
  have hpass : openBraces t =
      openBracesFrom (b + 1) (b :: openBracesFrom 0 [] (t.take b)) (t.drop (b + 1)) := by
    have h := openBracesFrom_append 0 [] (t.take b) ('{' :: t.drop (b + 1))
    rw [← ht, hlen, Nat.zero_add] at h
    exact h
  have hbelow : b ∉ openBracesFrom 0 [] (t.take b) := by
    intro hmem
    rcases mem_openBracesFrom hmem with h | h
    · exact absurd h List.not_mem_nil
    · omega
  have hinner : b ∉ ([] : List Nat) := List.not_mem_nil
  rw [hpass]
  exact mem_openBracesFrom_iff (Nat.lt_succ_self b) hinner hbelow

/-! ## the table of a call -/

theorem lastCallOf?_eq_some_iff {t : Text} {className : String} {s : ElementCall} :
    lastCallOf? t className = some s ↔ (IsCall t s ∧ s.className = className) ∧
      ∀ s', IsCall t s' → s'.className = className → s'.start ≤ s.start := by
  rw [lastCallOf?, getLast?_eq_some_iff_of_pairwise ((elementCalls_pairwise t).filter _)]
  simp only [List.mem_filter, mem_elementCalls, beq_iff_eq, and_imp]

theorem insideTable_eq_true_iff {t : Text} {className : String} :
    insideTable t className = true ↔ ∃ s, lastCallOf? t className = some s ∧
      staysOpen 0 (t.drop (s.brace + 1)) = true := by
  unfold insideTable
  cases lastCallOf? t className with
  | none => simp
  | some s => simp

/-- **The local walk agrees with the matching of all braces.** The end of a text lies in the table
of a class exactly when there is a call of that class and the brace of the last of them is on the
stack after one pass over the whole text. -/
theorem insideTable_iff_openBraces (t : Text) (className : String) :
    insideTable t className = true ↔ ∃ s ∈ elementCalls t, s.className = className ∧
      (∀ s' ∈ elementCalls t, s'.className = className → s'.start ≤ s.start) ∧
      s.brace ∈ openBraces t := by
  simp only [insideTable_eq_true_iff, lastCallOf?_eq_some_iff, mem_elementCalls]
  constructor
  · rintro ⟨s, ⟨⟨hs, hname⟩, hmax⟩, hopen⟩
    exact ⟨s, hs, hname, hmax, (mem_openBraces_iff hs.getElem?_brace).2 hopen⟩
  · rintro ⟨s, hs, hname, hmax, hmem⟩
    exact ⟨s, ⟨⟨hs, hname⟩, hmax⟩, (mem_openBraces_iff hs.getElem?_brace).1 hmem⟩

example : openBraces "\x7d f(\x7b e(Frame, \x7b a = \x7b\x7d, \x7b".toList = [25, 15, 4] := by
  decide +kernel

end ElementProps

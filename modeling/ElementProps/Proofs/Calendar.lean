import Mathlib.Tactic.IntervalCases
import ElementProps.Log.Timestamp

/-!
# The calendar

`Civil.ofDays` computes a date by divisions. Here the Gregorian calendar is written down as it is
taught (leap years, the lengths of the months, the day after a date) and the dates of successive day
numbers are shown to follow one another in it, before 1970 as well as after.

* `Civil.next c`            the day after a date;
* `firstMarch y`            the days from the first of March of the year 0 to that of the year `y`;
* `ofDays_of_march`         the date of a day that is given by its year, from March on, and its place
                            in that year;
* `Civil.ofDays_succ`       the next number is the date of the next day;
* `Civil.ofDays_before`     a smaller number is the date of an earlier day.
-/

namespace ElementProps.Log

/-! ## dates that follow one another -/

/-- every fourth year, but of the hundredth years only every fourth -/
def isLeapYear (y : Int) : Bool := y % 4 == 0 && (y % 100 != 0 || y % 400 == 0)

def daysInMonth (y m : Int) : Int :=
  if m = 2 then if isLeapYear y then 29 else 28
  else if m = 4 ∨ m = 6 ∨ m = 9 ∨ m = 11 then 30
  else 31

namespace Civil

/-- the day after a date -/
def next (c : Civil) : Civil :=
  if c.day < daysInMonth c.year c.month then { c with day := c.day + 1 }
  else if c.month < 12 then ⟨c.year, c.month + 1, 1⟩
  else ⟨c.year + 1, 1, 1⟩

/-- a date of the calendar -/
structure Valid (c : Civil) : Prop where
  month : 1 ≤ c.month ∧ c.month ≤ 12
  day : 1 ≤ c.day ∧ c.day ≤ daysInMonth c.year c.month

/-- the order of dates, by year, month and day -/
def Before (a b : Civil) : Prop :=
  a.year < b.year ∨ a.year = b.year ∧ (a.month < b.month ∨ a.month = b.month ∧ a.day < b.day)

theorem before_next (c : Civil) : c.Before c.next := by
  unfold next
  split
  · exact Or.inr ⟨rfl, Or.inr ⟨rfl, Int.lt_succ _⟩⟩
  · split
    · exact Or.inr ⟨rfl, Or.inl (Int.lt_succ _)⟩
    · exact Or.inl (Int.lt_succ _)

theorem Before.trans {a b c : Civil} (h : a.Before b) (h' : b.Before c) : a.Before c := by
  unfold Before at h h' ⊢
  omega

end Civil

theorem daysInMonth_le (y m : Int) : daysInMonth y m ≤ 31 := by
  unfold daysInMonth
  split
  · split <;> decide
  · split <;> decide

/-! ## years from March on -/

def firstMarch (y : Int) : Int := 365 * y + y / 4 - y / 100 + y / 400

/-- the number of days from one first of March to the next; a leap day belongs to the later year -/
def marchYearLength (y : Int) : Int := if isLeapYear (y + 1) then 366 else 365

theorem marchYearLength_bounds (y : Int) : 365 ≤ marchYearLength y ∧ marchYearLength y ≤ 366 := by
  unfold marchYearLength
  split <;> decide

theorem firstMarch_succ (y : Int) : firstMarch (y + 1) = firstMarch y + marchYearLength y := by
  unfold firstMarch marchYearLength isLeapYear
  split
  · next h =>
    simp only [Bool.and_eq_true, Bool.or_eq_true, beq_iff_eq, bne_iff_ne] at h
    omega
  · next h =>
    simp only [Bool.and_eq_true, Bool.or_eq_true, beq_iff_eq, bne_iff_ne] at h
    omega

/-- A day `n` of 400 years is the day `r` of a year. The year is the `s`-th of its four years, these
are the `p`-th four of their century, and that is the `q`-th of the 400 years. -/
structure DayOfEra (n q p s r : Int) : Prop where
  century : 0 ≤ q ∧ q ≤ 3
  fourYears : 0 ≤ p ∧ p ≤ 24
  year : 0 ≤ s ∧ s ≤ 3
  day : 0 ≤ r ∧ (r ≤ 364 ∨ r = 365 ∧ s = 3 ∧ (p ≤ 23 ∨ q = 3))
  eq : n = 36524 * q + 1461 * p + 365 * s + r

theorem exists_dayOfEra {n : Int} (h0 : 0 ≤ n) (h1 : n < 146097) :
    ∃ q p s r, DayOfEra n q p s r := by
  -- the last century of an era and the last of four years have one day more
  obtain ⟨q, hq⟩ : ∃ q, q = min (n / 36524) 3 := ⟨_, rfl⟩
  obtain ⟨p, hp⟩ : ∃ p, p = (n - 36524 * q) / 1461 := ⟨_, rfl⟩
  obtain ⟨s, hs⟩ : ∃ s, s = min ((n - 36524 * q - 1461 * p) / 365) 3 := ⟨_, rfl⟩
  refine ⟨q, p, s, n - 36524 * q - 1461 * p - 365 * s, ⟨?_, ?_, ?_, ?_, ?_⟩⟩ <;> omega

/-- the year of an era that the divisions give is the year of the day -/
theorem DayOfEra.yearOfEra {n q p s r : Int} (h : DayOfEra n q p s r) :
    (n - n / 1460 + n / 36524 - n / 146096) / 365 = 100 * q + 4 * p + s := by
  obtain ⟨hq, hp, hs, hr, hn⟩ := h
  have hcentury : n / 36524 - n / 146096 = q := by
    by_cases hlast : n = 146096
    · have hq3 : q = 3 := by omega
      omega
    · have hlt : n < 36524 * (q + 1) := by omega
      have hdiv : n / 36524 = q := by omega
      omega
  have hfour : n / 1460 = 25 * q + p ∧ r ≤ 364 ∨ n / 1460 = 25 * q + p + 1 ∧ 1 ≤ r := by omega
  rcases hfour with ⟨h, h'⟩ | ⟨h, h'⟩ <;> omega

theorem DayOfEra.dayOfYear {n q p s r : Int} (h : DayOfEra n q p s r) :
    n - (365 * (100 * q + 4 * p + s) + (100 * q + 4 * p + s) / 4 - (100 * q + 4 * p + s) / 100) =
      r := by
  obtain ⟨hq, hp, hs, -, hn⟩ := h
  have hfour : (100 * q + 4 * p + s) / 4 = 25 * q + p := by omega
  have hcentury : (100 * q + 4 * p + s) / 100 = q := by omega
  rw [hfour, hcentury, hn]
  omega

theorem DayOfEra.lt {n q p s r : Int} (h : DayOfEra n q p s r) : 0 ≤ n ∧ n < 146097 := by
  obtain ⟨hq, hp, hs, hr, hn⟩ := h
  omega

theorem firstMarch_parts {q p s : Int} (era : Int) (hq : 0 ≤ q ∧ q ≤ 3) (hp : 0 ≤ p ∧ p ≤ 24)
    (hs : 0 ≤ s ∧ s ≤ 3) : firstMarch (400 * era + 100 * q + 4 * p + s) =
      146097 * era + (36524 * q + 1461 * p + 365 * s) := by
  unfold firstMarch
  omega

theorem lt_marchYearLength_iff {q p s r : Int} (era : Int) (hq : 0 ≤ q ∧ q ≤ 3)
    (hp : 0 ≤ p ∧ p ≤ 24) (hs : 0 ≤ s ∧ s ≤ 3) :
    r < marchYearLength (400 * era + 100 * q + 4 * p + s) ↔
      r ≤ 364 ∨ r = 365 ∧ s = 3 ∧ (p ≤ 23 ∨ q = 3) := by
  unfold marchYearLength isLeapYear
  split
  · next h =>
    simp only [Bool.and_eq_true, Bool.or_eq_true, beq_iff_eq, bne_iff_ne] at h
    omega
  · next h =>
    simp only [Bool.and_eq_true, Bool.or_eq_true, beq_iff_eq, bne_iff_ne] at h
    omega

theorem exists_march (z : Int) :
    ∃ y r, 0 ≤ r ∧ r < marchYearLength y ∧ z = firstMarch y + r := by
  obtain ⟨q, p, s, r, h⟩ := exists_dayOfEra (n := z % 146097) (by omega) (by omega)
  obtain ⟨hq, hp, hs, hr, hn⟩ := h
  refine ⟨400 * (z / 146097) + 100 * q + 4 * p + s, r, hr.1, ?_, ?_⟩
  · exact (lt_marchYearLength_iff _ hq hp hs).2 hr.2
  · rw [firstMarch_parts _ hq hp hs]
    omega

/-- the date of the day `r` of the year `y` from March on -/
def ofMarch (y r : Int) : Civil :=
  let shifted := (5 * r + 2) / 153
  let month := if shifted < 10 then shifted + 3 else shifted - 9
  { year := y + (if month ≤ 2 then 1 else 0)
    month := month
    day := r - (153 * shifted + 2) / 5 + 1 }

theorem DayOfEra.ofDays_eq {n q p s r : Int} (h : DayOfEra n q p s r) (era : Int) :
    Civil.ofDays (146097 * era + n - 719468) = ofMarch (400 * era + 100 * q + 4 * p + s) r := by
  obtain ⟨h0, h1⟩ := h.lt
  have hera : (146097 * era + n) / 146097 = era := by omega
  have hdayOfEra : (146097 * era + n) % 146097 = n := by omega
  have hsum : 100 * q + 4 * p + s + era * 400 = 400 * era + 100 * q + 4 * p + s := by omega
  unfold Civil.ofDays ofMarch
  simp only [Int.sub_add_cancel, hera, hdayOfEra, h.yearOfEra, h.dayOfYear, hsum]

theorem ofDays_of_march {y r : Int} (h0 : 0 ≤ r) (h1 : r < marchYearLength y) :
    Civil.ofDays (firstMarch y + r - 719468) = ofMarch y r := by
  -- the year by its place among 400 years
  obtain ⟨q, hq⟩ : ∃ q, q = y % 400 / 100 := ⟨_, rfl⟩
  obtain ⟨p, hp⟩ : ∃ p, p = y % 100 / 4 := ⟨_, rfl⟩
  have hq3 : 0 ≤ q ∧ q ≤ 3 := by omega
  have hp24 : 0 ≤ p ∧ p ≤ 24 := by omega
  have hs3 : 0 ≤ y % 4 ∧ y % 4 ≤ 3 := by omega
  have hy : 400 * (y / 400) + 100 * q + 4 * p + y % 4 = y := by omega
  have hparts := firstMarch_parts (y / 400) hq3 hp24 hs3
  have hlt := lt_marchYearLength_iff (r := r) (y / 400) hq3 hp24 hs3
  rw [hy] at hparts hlt
  have hera : DayOfEra (36524 * q + 1461 * p + 365 * (y % 4) + r) q p (y % 4) r :=
    ⟨hq3, hp24, hs3, ⟨h0, hlt.1 h1⟩, rfl⟩
  have h := hera.ofDays_eq (y / 400)
  rw [hy] at h
  rw [hparts, Int.add_assoc]
  exact h

/-! ## months from March on -/

/-- the days from the first of March to the first of the `k`-th month after it -/
def monthStart (k : Int) : Int := (153 * k + 2) / 5

/-- the day `d` of the `k`-th month after March of the year `y` -/
def inMonth (y k d : Int) : Civil where
  year := if k < 10 then y else y + 1
  month := if k < 10 then k + 3 else k - 9
  day := d

/-- the length of the `k`-th month after March; February goes on to the end of the year -/
def monthLength (y k : Int) : Int :=
  if k = 11 then marchYearLength y - monthStart 11 else monthStart (k + 1) - monthStart k

theorem daysInMonth_inMonth {y k d : Int} (hk : 0 ≤ k ∧ k ≤ 11) :
    daysInMonth (inMonth y k d).year (inMonth y k d).month = monthLength y k := by
  obtain ⟨h0, h1⟩ := hk
  by_cases hk : k = 11
  · subst hk
    show (if isLeapYear (y + 1) then (29 : Int) else 28) = marchYearLength y - 337
    unfold marchYearLength
    split <;> rfl
  · interval_cases k
    all_goals first | rfl | exact absurd rfl hk

theorem exists_inMonth {y r : Int} (h0 : 0 ≤ r) (h1 : r < marchYearLength y) :
    ∃ k d, (0 ≤ k ∧ k ≤ 11) ∧ (1 ≤ d ∧ d ≤ monthLength y k) ∧ r = monthStart k + (d - 1) := by
  have hle := marchYearLength_bounds y
  obtain ⟨k, hk⟩ : ∃ k, k = (5 * r + 2) / 153 := ⟨_, rfl⟩
  refine ⟨k, r - monthStart k + 1, by omega, ?_, by omega⟩
  unfold monthLength
  split
  · next h =>
    subst h
    unfold monthStart
    omega
  · unfold monthStart
    omega

theorem monthLength_pos (y k : Int) : 1 ≤ monthLength y k := by
  have hge := marchYearLength_bounds y
  unfold monthLength
  split
  · unfold monthStart
    omega
  · unfold monthStart
    omega

theorem monthEnd_le {y k : Int} (hk : 0 ≤ k ∧ k ≤ 11) :
    monthStart k + monthLength y k ≤ marchYearLength y ∧
      monthStart k + monthLength y k ≤ monthStart (k + 1) := by
  have hge := marchYearLength_bounds y
  unfold monthLength
  split
  · next h =>
    subst h
    unfold monthStart
    omega
  · unfold monthStart
    omega

theorem ofMarch_eq_inMonth {y k d : Int} (hk : 0 ≤ k ∧ k ≤ 11) (hd : 1 ≤ d ∧ d ≤ monthLength y k) :
    ofMarch y (monthStart k + (d - 1)) = inMonth y k d := by
  have hnext := (monthEnd_le (y := y) hk).2
  have hmonth : (5 * (monthStart k + (d - 1)) + 2) / 153 = k := by
    unfold monthStart at hnext ⊢
    omega
  have hday : monthStart k + (d - 1) - (153 * k + 2) / 5 + 1 = d := by
    unfold monthStart
    omega
  unfold ofMarch inMonth
  simp only [hmonth, hday, Civil.mk.injEq, and_true]
  by_cases hk10 : k < 10
  · rw [if_pos hk10, if_pos hk10, if_neg (by omega), Int.add_zero]
  · rw [if_neg hk10, if_neg hk10, if_pos (by omega)]

/-! ## dates by their numbers -/

/-- the number of the day `d` of the `k`-th month after March of the year `y` -/
def numberOf (y k d : Int) : Int := firstMarch y + (monthStart k + (d - 1)) - 719468

theorem ofDays_numberOf {y k d : Int} (hk : 0 ≤ k ∧ k ≤ 11) (hd : 1 ≤ d ∧ d ≤ monthLength y k) :
    Civil.ofDays (numberOf y k d) = inMonth y k d := by
  have hend := (monthEnd_le (y := y) hk).1
  have hstart : 0 ≤ monthStart k := by
    unfold monthStart
    omega
  rw [numberOf, ofDays_of_march (by omega) (by omega), ofMarch_eq_inMonth hk hd]

theorem exists_numberOf (days : Int) :
    ∃ y k d, (0 ≤ k ∧ k ≤ 11) ∧ (1 ≤ d ∧ d ≤ monthLength y k) ∧ days = numberOf y k d := by
  obtain ⟨y, r, h0, h1, hz⟩ := exists_march (days + 719468)
  obtain ⟨k, d, hk, hd, rfl⟩ := exists_inMonth h0 h1
  refine ⟨y, k, d, hk, hd, ?_⟩
  rw [numberOf, ← hz, Int.add_sub_cancel]

/-! ## the day after a date -/

section
variable {y k d : Int} (hk : 0 ≤ k ∧ k ≤ 11)
include hk

theorem next_inMonth_of_lt (hd : d < monthLength y k) :
    (inMonth y k d).next = inMonth y k (d + 1) := by
  rw [← daysInMonth_inMonth (d := d) hk] at hd
  exact if_pos hd

theorem next_inMonth_of_le (hd : monthLength y k ≤ d) :
    (inMonth y k d).next = if k < 11 then inMonth y (k + 1) 1 else inMonth (y + 1) 0 1 := by
  rw [← daysInMonth_inMonth (d := d) hk] at hd
  refine (if_neg (Int.not_lt.2 hd)).trans ?_
  obtain hk9 | rfl | rfl | rfl : k < 9 ∨ k = 9 ∨ k = 10 ∨ k = 11 := by omega
  · have hk10 : k < 10 := by omega
    have hk11 : k < 11 := by omega
    have hk1 : k + 1 < 10 := by omega
    have hk3 : k + 3 < 12 := by omega
    simp only [inMonth, hk10, hk11, hk1, hk3, if_true]
    rw [Int.add_right_comm]
  · rfl
  · rfl
  · rfl

end

namespace Civil

theorem ofDays_zero : ofDays 0 = ⟨1970, 1, 1⟩ := rfl

/-- **The dates of successive numbers follow one another.** -/
theorem ofDays_succ (days : Int) : ofDays (days + 1) = (ofDays days).next := by
  obtain ⟨y, k, d, hk, hd, rfl⟩ := exists_numberOf days
  rw [ofDays_numberOf hk hd]
  by_cases hlt : d < monthLength y k
  · -- the next day of the month
    have hday : numberOf y k d + 1 = numberOf y k (d + 1) := by
      unfold numberOf
      omega
    rw [next_inMonth_of_lt hk hlt, hday, ofDays_numberOf hk (by omega)]
  · rw [next_inMonth_of_le hk (by omega)]
    have hlast : d = monthLength y k := by omega
    by_cases hk11 : k < 11
    · -- the first of the next month
      have hday : numberOf y k d + 1 = numberOf y (k + 1) 1 := by
        rw [monthLength, if_neg (by omega)] at hlast
        unfold numberOf
        omega
      have hk' : 0 ≤ k + 1 ∧ k + 1 ≤ 11 := by omega
      rw [if_pos hk11, hday, ofDays_numberOf hk' ⟨Int.le_refl 1, monthLength_pos y _⟩]
    · -- the first of March
      have hday : numberOf y k d + 1 = numberOf (y + 1) 0 1 := by
        obtain rfl : k = 11 := by omega
        rw [monthLength, if_pos rfl] at hlast
        have hzero : monthStart 0 = 0 := rfl
        unfold numberOf
        rw [firstMarch_succ, hzero]
        omega
      rw [if_neg hk11, hday, ofDays_numberOf (by decide) ⟨Int.le_refl 1, monthLength_pos _ 0⟩]

theorem valid_ofDays (days : Int) : (ofDays days).Valid := by
  obtain ⟨y, k, d, hk, hd, rfl⟩ := exists_numberOf days
  rw [ofDays_numberOf hk hd]
  refine ⟨?_, ?_⟩
  · unfold inMonth
    dsimp only
    split <;> omega
  · rw [daysInMonth_inMonth hk]
    exact hd

theorem ofDays_before_add (a : Int) (n : Nat) : (ofDays a).Before (ofDays (a + n + 1)) := by
  induction n with
  | zero =>
    rw [Int.natCast_zero, Int.add_zero, ofDays_succ]
    exact before_next _
  | succ n ih =>
    rw [Int.natCast_succ, ← Int.add_assoc, ofDays_succ]
    exact ih.trans (before_next _)

/-- A smaller number is the date of an earlier day. -/
theorem ofDays_before {a b : Int} (h : a < b) : (ofDays a).Before (ofDays b) := by
  have hb : b = a + (b - a - 1).toNat + 1 := by omega
  rw [hb]
  exact ofDays_before_add a _

end Civil

end ElementProps.Log

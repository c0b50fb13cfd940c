import ElementProps.Text.Numeral

/-!
# Timestamps

A moment is a number of seconds since the start of 1970 in UTC, which may be negative, and
milliseconds. Its calendar date is that of the Gregorian calendar, extended to all years.

* `Civil.ofDays`         the date of a day number;
* `Moment.text`          a moment as `YYYY-MM-DD HH:MM:SS.mmm`;
* `Moment.check`         a moment that a clock can show, or why none can.

A year is counted from its first of March, so that a leap day is the last day of its year; then
every 400 years are alike and take 146097 days.
-/

namespace ElementProps.Log

structure Civil where
  year : Int
  /-- from 1 to 12 -/
  month : Int
  /-- from 1 to 31 -/
  day : Int
  deriving DecidableEq, Repr

/-- the date of a day, given by the number of days since the first of January 1970 -/
def Civil.ofDays (days : Int) : Civil :=
  -- days since the first of March of the year 0
  let z := days + 719468
  let era := z / 146097
  let dayOfEra := z % 146097
  let yearOfEra :=
    (dayOfEra - dayOfEra / 1460 + dayOfEra / 36524 - dayOfEra / 146096) / 365
  let dayOfYear := dayOfEra - (365 * yearOfEra + yearOfEra / 4 - yearOfEra / 100)
  -- months since March
  let shifted := (5 * dayOfYear + 2) / 153
  let month := if shifted < 10 then shifted + 3 else shifted - 9
  { year := yearOfEra + era * 400 + (if month ≤ 2 then 1 else 0)
    month := month
    day := dayOfYear - (153 * shifted + 2) / 5 + 1 }

/-- a moment in UTC -/
structure Moment where
  /-- seconds since the start of 1970 -/
  seconds : Int
  /-- milliseconds of the second -/
  millis : Int
  deriving DecidableEq, Repr

/-- a moment as `YYYY-MM-DD HH:MM:SS.mmm` -/
def Moment.text (m : Moment) : String :=
  let date := Civil.ofDays (m.seconds / 86400)
  let second := m.seconds % 86400
  Text.padded 4 date.year ++ "-" ++ Text.padded 2 date.month ++ "-" ++ Text.padded 2 date.day
    ++ " " ++ Text.padded 2 (second / 3600) ++ ":" ++ Text.padded 2 (second / 60 % 60)
    ++ ":" ++ Text.padded 2 (second % 60) ++ "." ++ Text.padded 3 m.millis

/-! ## limits -/

inductive MomentError where
  /-- the seconds do not fit into 64 bits -/
  | seconds
  /-- the year, counted from 1900, does not fit into 32 bits -/
  | year
  deriving DecidableEq, Repr

def MomentError.message : MomentError → String
  | .seconds => "timestamp out of range for platform time_t"
  | .year => "[Errno 75] Value too large for defined data type"

/-- a number fits into a signed word of the given width -/
def fitsWord (bits : Nat) (n : Int) : Bool :=
  decide (-Int.pow 2 (bits - 1) ≤ n) && decide (n < Int.pow 2 (bits - 1))

/-- a moment that a clock can show, or why none can -/
def Moment.check (m : Moment) : Except MomentError Moment :=
  if !fitsWord 64 m.seconds then .error .seconds
  else if !fitsWord 32 ((Civil.ofDays (m.seconds / 86400)).year - 1900) then .error .year
  else .ok m

example : Moment.text ⟨951782400, 1⟩ = "2000-02-29 00:00:00.001" := by decide
example : Moment.text ⟨-1, 100⟩ = "1969-12-31 23:59:59.100" := by decide
example : Moment.check ⟨67768036191676799, 0⟩ = .ok ⟨67768036191676799, 0⟩ := by rfl
example : Moment.check ⟨-67768040609740800, 0⟩ = .ok ⟨-67768040609740800, 0⟩ := by rfl
example : Moment.check ⟨67768036191676800, 0⟩ = .error .year := by rfl
example : Moment.check ⟨-67768040609740801, 0⟩ = .error .year := by rfl

end ElementProps.Log

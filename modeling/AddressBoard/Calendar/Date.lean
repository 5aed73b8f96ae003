/-!
# Civil dates

Dates of the proleptic Gregorian calendar with a year 0, numbered by their distance in days from
1970-01-01. Both directions count years from March, so that the day a leap year adds comes last:
months then start at day `(153 * month + 2) / 5` of such a year, and a cycle of 400 years splits
into centuries, spans of four years, and years, each of which is short or long only at its end.
-/

namespace AddressBoard.Calendar

structure Date where
  year : Int
  month : Nat
  day : Nat
deriving DecidableEq, Repr

def isLeapYear (year : Int) : Bool :=
  year % 4 = 0 && (year % 100 ≠ 0 || year % 400 = 0)

/-- The number of days of a month, and 0 for a number that names no month. -/
def daysInMonth (year : Int) : Nat → Nat
  | 2 => if isLeapYear year then 29 else 28
  | 4 | 6 | 9 | 11 => 30
  | 1 | 3 | 5 | 7 | 8 | 10 | 12 => 31
  | _ => 0

/-- A date is valid when its month has such a day. -/
def Date.Valid (date : Date) : Prop :=
  1 ≤ date.day ∧ date.day ≤ daysInMonth date.year date.month

instance (date : Date) : Decidable date.Valid :=
  inferInstanceAs (Decidable (_ ∧ _))

/-- The days from 0000-03-01 to 1970-01-01. -/
def epochDay : Int := 719468

/-- The number of days from 1970-01-01 to the date. -/
def Date.dayNumber (date : Date) : Int :=
  let year := if date.month ≤ 2 then date.year - 1 else date.year
  let month := (date.month + 9) % 12
  365 * year + year / 4 - year / 100 + year / 400 + ((153 * month + 2) / 5 : Nat) + date.day - 1
    - epochDay

/-- The date that lies the given number of days after 1970-01-01. -/
def Date.ofDayNumber (number : Int) : Date :=
  let days := number + epochDay
  let cycle := days / 146097
  let dayOfCycle := (days % 146097).toNat
  let century := min 3 (dayOfCycle / 36524)
  let dayOfCentury := dayOfCycle - 36524 * century
  let span := dayOfCentury / 1461
  let dayOfSpan := dayOfCentury - 1461 * span
  let yearOfSpan := min 3 (dayOfSpan / 365)
  let dayOfYear := dayOfSpan - 365 * yearOfSpan
  let month := (5 * dayOfYear + 2) / 153
  let year := 400 * cycle + (100 * century + 4 * span + yearOfSpan : Nat)
  { year := if month < 10 then year else year + 1
    month := if month < 10 then month + 3 else month - 9
    day := dayOfYear - (153 * month + 2) / 5 + 1 }

example : Date.dayNumber ⟨2024, 2, 29⟩ = 19782 := by decide
example : Date.ofDayNumber 19782 = ⟨2024, 2, 29⟩ := by decide
example : Date.ofDayNumber (-719528) = ⟨0, 1, 1⟩ := by decide

end AddressBoard.Calendar

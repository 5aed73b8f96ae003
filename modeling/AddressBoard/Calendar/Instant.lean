import AddressBoard.Calendar.Date
import AddressBoard.Text.Numeral

/-!
# Instants

An instant is a second of Unix time with a nanosecond part. A leap second has no number of its own:
it belongs to the second it follows and is told apart by a nanosecond part of 10⁹ or more.
-/

namespace AddressBoard.Calendar

structure Instant where
  second : Int
  nano : Nat
deriving DecidableEq, Repr

namespace Instant

def secondsPerDay : Int := 86400

def nanosPerSecond : Nat := 1000000000

def earliestYear : Int := -262143

def latestYear : Int := 262142

def earliestSecond : Int := -8334601228800

def latestSecond : Int := 8210266876799

def InRange (instant : Instant) : Prop :=
  earliestSecond ≤ instant.second ∧ instant.second ≤ latestSecond

instance (instant : Instant) : Decidable instant.InRange :=
  inferInstanceAs (Decidable (_ ∧ _))

def isLeap (instant : Instant) : Bool := nanosPerSecond ≤ instant.nano

def dayNumber (instant : Instant) : Int := instant.second / secondsPerDay

def secondOfDay (instant : Instant) : Int := instant.second % secondsPerDay

/-- The instant a number of milliseconds after the start of 1970, if it lies in range. -/
def ofMillis? (millis : Int) : Option Instant :=
  let instant : Instant := { second := millis / 1000, nano := (millis % 1000).toNat * 1000000 }
  if instant.InRange then some instant else none

/-- The seconds that leap seconds add between two times of day: one for a leap second that the
earlier time stands in, and one less for a leap second that the later time stands in. -/
def leapCorrection (later earlier : Instant) : Int :=
  if earlier.secondOfDay < later.secondOfDay ∧ earlier.isLeap then 1
  else if later.secondOfDay < earlier.secondOfDay ∧ later.isLeap then -1
  else 0

def nanosSince (later earlier : Instant) : Int :=
  let seconds := (later.dayNumber - earlier.dayNumber) * secondsPerDay
    + (later.secondOfDay - earlier.secondOfDay) + leapCorrection later earlier
  seconds * nanosPerSecond + ((later.nano : Int) - earlier.nano)

/-- The whole milliseconds from `earlier` to `later`, rounded toward zero. -/
def millisSince (later earlier : Instant) : Int := (nanosSince later earlier).tdiv 1000000

/-- A year of up to four digits is filled up to four; any other one carries its sign as well. -/
def yearText (year : Int) : List Char :=
  if 0 ≤ year ∧ year ≤ 9999 then Numeral.padded 4 year.toNat
  else (if year < 0 then '-' else '+') :: Numeral.padded 4 year.natAbs

/-- The instant as `YYYY-MM-DD HH:MM:SS` on a clock that is `offset` seconds ahead of UTC. A leap
second adds one to the printed second, without a carry. -/
def characters (instant : Instant) (offset : Int) : List Char :=
  let second := instant.second + offset
  let date := Date.ofDayNumber (second / secondsPerDay)
  let secondOfDay := (second % secondsPerDay).toNat
  yearText date.year ++ '-' :: Numeral.padded 2 date.month ++ '-' :: Numeral.padded 2 date.day
    ++ ' ' :: Numeral.padded 2 (secondOfDay / 3600)
    ++ ':' :: Numeral.padded 2 (secondOfDay / 60 % 60)
    ++ ':' :: Numeral.padded 2 (secondOfDay % 60 + instant.nano / nanosPerSecond)

def text (instant : Instant) (offset : Int) : String := String.ofList (instant.characters offset)

/-- The bounds are the first and the last second of their years. -/
example : earliestSecond = Date.dayNumber ⟨earliestYear, 1, 1⟩ * secondsPerDay
    ∧ latestSecond = (Date.dayNumber ⟨latestYear, 12, 31⟩ + 1) * secondsPerDay - 1 := by decide

example : characters ⟨59, nanosPerSecond⟩ 1 = "1970-01-01 00:01:01".toList := by decide
example : characters ⟨earliestSecond, 0⟩ (-1) = "-262144-12-31 23:59:59".toList := by decide

end Instant

end AddressBoard.Calendar

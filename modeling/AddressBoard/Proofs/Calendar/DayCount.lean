import AddressBoard.Calendar.Date
import Mathlib.Tactic.Common

/-!
# Counting days

The number of a date is what one counts from 1970-01-01, day by day and in both directions, through
months of their lengths and years that may be leap years.
-/

namespace AddressBoard.Calendar

theorem Date.Valid.bounds {date : Date} (hvalid : date.Valid) :
    1 ≤ date.month ∧ date.month ≤ 12 ∧ date.day ≤ 31 := by
  obtain ⟨hfirst, hlast⟩ := hvalid
  unfold daysInMonth at hlast
  split at hlast <;> try split at hlast
  all_goals omega

/-! ## From day to day -/

/-- The day after a date. -/
def Date.next (date : Date) : Date :=
  if date.day < daysInMonth date.year date.month then { date with day := date.day + 1 }
  else if date.month < 12 then ⟨date.year, date.month + 1, 1⟩
  else ⟨date.year + 1, 1, 1⟩

theorem daysInMonth_pos (year : Int) {month : Nat} (hfirst : 1 ≤ month) (hlast : month ≤ 12) :
    1 ≤ daysInMonth year month := by
  unfold daysInMonth
  split
  case h_1 => split <;> decide
  case h_13 =>
    simp only [imp_false] at *
    omega
  all_goals decide

theorem Date.Valid.next {date : Date} (hvalid : date.Valid) : date.next.Valid := by
  obtain ⟨hfirst, hlast, -⟩ := hvalid.bounds
  unfold Date.next
  split
  · next hroom => exact ⟨Nat.le_add_left 1 _, hroom⟩
  · split
    · next hmonth => exact ⟨Nat.le_refl 1, daysInMonth_pos _ (Nat.le_add_left 1 _) hmonth⟩
    · exact ⟨Nat.le_refl 1, daysInMonth_pos _ (Nat.le_refl 1) (Nat.le_add_left 1 11)⟩

theorem Date.Valid.exists_previous {date : Date} (hvalid : date.Valid) :
    ∃ earlier : Date, earlier.Valid ∧ earlier.next = date := by
  obtain ⟨hfirst, hlast, -⟩ := hvalid.bounds
  obtain ⟨year, month, day⟩ := date
  obtain ⟨hday, hdays⟩ := hvalid
  simp only at hfirst hlast hday hdays
  by_cases hlater : day = 1
  · by_cases hmonth : month = 1
    · have hlong : (⟨year - 1, 12, 31⟩ : Date).Valid := ⟨Nat.le_add_left 1 30, Nat.le_refl 31⟩
      refine ⟨_, hlong, ?_⟩
      have hyear : year - 1 + 1 = year := by omega
      simp [Date.next, daysInMonth, hlater, hmonth, hyear]
    · obtain ⟨before, rfl⟩ : ∃ before, month = before + 1 := ⟨month - 1, by omega⟩
      have hpos : 1 ≤ daysInMonth year before := daysInMonth_pos year (by omega) (by omega)
      refine ⟨⟨year, before, daysInMonth year before⟩, ⟨hpos, Nat.le_refl _⟩, ?_⟩
      have hspring : before < 12 := hlast
      simp [Date.next, hlater, hspring]
  · obtain ⟨before, rfl⟩ : ∃ before, day = before + 1 := ⟨day - 1, by omega⟩
    have hshort : (⟨year, month, before⟩ : Date).Valid :=
      ⟨Nat.pos_of_ne_zero fun hzero => hlater (congrArg (· + 1) hzero), Nat.le_of_succ_le hdays⟩
    exact ⟨_, hshort, if_pos hdays⟩

/-! ## Numbers of days -/

theorem isLeapYear_iff {year : Int} :
    isLeapYear year = true ↔ year % 4 = 0 ∧ (year % 100 ≠ 0 ∨ year % 400 = 0) := by
  simp [isLeapYear]

theorem dayNumber_next_month (year : Int) {month : Nat} (hfirst : 1 ≤ month) (hlast : month < 12) :
    Date.dayNumber ⟨year, month + 1, 1⟩
      = Date.dayNumber ⟨year, month, daysInMonth year month⟩ + 1 := by
  by_cases hspring : month = 2
  · subst hspring
    by_cases hlong : isLeapYear year = true
    · have hyear := isLeapYear_iff.mp hlong
      simp only [Date.dayNumber, daysInMonth, if_pos hlong]
      omega
    · have hyear := mt isLeapYear_iff.mpr hlong
      simp only [Date.dayNumber, daysInMonth, if_neg hlong]
      omega
  · have hmonth : month = 1 ∨ month = 3 ∨ month = 4 ∨ month = 5 ∨ month = 6 ∨ month = 7 ∨ month = 8
        ∨ month = 9 ∨ month = 10 ∨ month = 11 := by
      omega
    rcases hmonth with rfl | rfl | rfl | rfl | rfl | rfl | rfl | rfl | rfl | rfl <;>
      simp only [Date.dayNumber, daysInMonth] <;> omega

theorem dayNumber_next_year (year : Int) :
    Date.dayNumber ⟨year + 1, 1, 1⟩ = Date.dayNumber ⟨year, 12, daysInMonth year 12⟩ + 1 := by
  simp only [Date.dayNumber, daysInMonth]
  omega

/-- Each valid date has the number behind that of the day before. -/
theorem dayNumber_next {date : Date} (hvalid : date.Valid) :
    date.next.dayNumber = date.dayNumber + 1 := by
  obtain ⟨hfirst, hlast, -⟩ := hvalid.bounds
  obtain ⟨-, hdays⟩ := hvalid
  unfold Date.next
  split
  · simp only [Date.dayNumber]
    omega
  · next hover =>
    have hlength : date.day = daysInMonth date.year date.month := by omega
    have hdate : date = ⟨date.year, date.month, daysInMonth date.year date.month⟩ := by
      rw [← hlength]
    split
    · next hmonth =>
      rw [dayNumber_next_month date.year hfirst hmonth, ← hdate]
    · next hmonth =>
      have htwelve : date.month = 12 := by omega
      rw [dayNumber_next_year, ← htwelve, ← hdate]

theorem dayNumber_epoch : Date.dayNumber ⟨1970, 1, 1⟩ = 0 := by decide

theorem eq_epoch_of_dayNumber {date : Date} (hvalid : date.Valid) (hzero : date.dayNumber = 0) :
    date = ⟨1970, 1, 1⟩ := by
  obtain ⟨hfirst, hlast, hdays⟩ := hvalid.bounds
  obtain ⟨year, month, day⟩ := date
  obtain ⟨hday, -⟩ := hvalid
  simp only [Date.dayNumber, epochDay] at hzero hfirst hlast hdays hday
  have hyear : year = 1969 ∨ year = 1970 := by
    split at hzero <;> omega
  obtain ⟨rfl, rfl, rfl⟩ : year = 1970 ∧ month = 1 ∧ day = 1 := by
    rcases hyear with rfl | rfl <;> split at hzero <;> omega
  rfl

/-! ## The count -/

/-- The date is so many days after 1970-01-01, or before it if the number is negative. -/
inductive Date.IsDay : Date → Int → Prop where
  | epoch : IsDay ⟨1970, 1, 1⟩ 0
  | next {date : Date} {number : Int} (hday : date.IsDay number) : IsDay date.next (number + 1)
  | previous {date : Date} {number : Int} (hvalid : date.Valid)
      (hnext : date.next.IsDay (number + 1)) : IsDay date number

theorem Date.IsDay.valid {date : Date} {number : Int} (hday : date.IsDay number) : date.Valid := by
  induction hday with
  | epoch => decide
  | next _ ih => exact ih.next
  | previous hvalid _ _ => exact hvalid

theorem Date.IsDay.dayNumber_eq {date : Date} {number : Int} (hday : date.IsDay number) :
    date.dayNumber = number := by
  induction hday with
  | epoch => exact dayNumber_epoch
  | next hday ih => rw [dayNumber_next hday.valid, ih]
  | previous hvalid _ ih =>
    rw [dayNumber_next hvalid] at ih
    omega

theorem isDay_of_nonneg {date : Date} (hvalid : date.Valid) {days : Nat}
    (hdays : date.dayNumber = days) : date.IsDay days := by
  induction days generalizing date with
  | zero =>
    rw [eq_epoch_of_dayNumber hvalid hdays]
    exact .epoch
  | succ days ih =>
    obtain ⟨earlier, hearlier, rfl⟩ := hvalid.exists_previous
    rw [dayNumber_next hearlier] at hdays
    exact (ih hearlier (by omega)).next

theorem isDay_of_nonpos {date : Date} (hvalid : date.Valid) {days : Nat}
    (hdays : date.dayNumber = -days) : date.IsDay (-days) := by
  induction days generalizing date with
  | zero =>
    rw [eq_epoch_of_dayNumber hvalid hdays]
    exact .epoch
  | succ days ih =>
    have hnext : date.next.dayNumber = -days := by
      rw [dayNumber_next hvalid, hdays]
      omega
    have hsucc : -((days + 1 : Nat) : Int) + 1 = -days := by omega
    refine .previous hvalid ?_
    rw [hsucc]
    exact ih hvalid.next hnext

/-- Counting the days comes to the number of the date, and every valid date is counted. -/
theorem isDay_iff {date : Date} {number : Int} :
    date.IsDay number ↔ date.Valid ∧ date.dayNumber = number := by
  constructor
  · exact fun hday => ⟨hday.valid, hday.dayNumber_eq⟩
  · rintro ⟨hvalid, rfl⟩
    rcases Int.eq_nat_or_neg date.dayNumber with ⟨days, hdays | hdays⟩
    · rw [hdays]
      exact isDay_of_nonneg hvalid hdays
    · rw [hdays]
      exact isDay_of_nonpos hvalid hdays

end AddressBoard.Calendar

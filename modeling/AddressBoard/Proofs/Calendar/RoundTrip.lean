import AddressBoard.Proofs.Calendar.Spellings

/-!
# Instants that are read back

Every day number is that of a valid date, so the text of an instant names the day and the time of
day that a clock shows. That text is read back as the instant without its fraction of a second, in
every year that is written; and so is a text for another zone once its offset stands behind it.
-/

namespace AddressBoard.Calendar

open Numeral (padded)

/-! ## Days -/

/-- Where a day lies: in which cycle of 400 years, counted from March of the year 0, in which
century of it, span of four years and year of the span, and which day of that year it is. -/
structure DayPlace where
  cycle : Int
  century : Nat
  span : Nat
  yearOfSpan : Nat
  dayOfYear : Nat

namespace DayPlace

/-- The place of the day with a number. -/
def ofNumber (number : Int) : DayPlace :=
  let dayOfCycle := ((number + epochDay) % 146097).toNat
  let century := min 3 (dayOfCycle / 36524)
  let dayOfCentury := dayOfCycle - 36524 * century
  let span := dayOfCentury / 1461
  let dayOfSpan := dayOfCentury - 1461 * span
  let yearOfSpan := min 3 (dayOfSpan / 365)
  { cycle := (number + epochDay) / 146097, century, span, yearOfSpan
    dayOfYear := dayOfSpan - 365 * yearOfSpan }

variable (place : DayPlace)

/-- The year, which begins in March. -/
def year : Int :=
  400 * place.cycle + (100 * place.century + 4 * place.span + place.yearOfSpan : Nat)

/-- The month, March being 0. -/
def month : Nat := (5 * place.dayOfYear + 2) / 153

def date : Date where
  year := if place.month < 10 then place.year else place.year + 1
  month := if place.month < 10 then place.month + 3 else place.month - 9
  day := place.dayOfYear - (153 * place.month + 2) / 5 + 1

def number : Int :=
  146097 * place.cycle
    + (36524 * place.century + 1461 * place.span + 365 * place.yearOfSpan + place.dayOfYear : Nat)
    - epochDay

/-- Only the last year of a span has a day 365, and the last span of a century has such a year only
in the last century of a cycle. -/
structure Valid : Prop where
  century : place.century ≤ 3
  span : place.span ≤ 24
  yearOfSpan : place.yearOfSpan ≤ 3
  dayOfYear : place.dayOfYear ≤ 365
  leap : place.dayOfYear = 365 → place.yearOfSpan = 3 ∧ (place.span = 24 → place.century = 3)

theorem date_ofNumber (number : Int) : (ofNumber number).date = Date.ofDayNumber number := rfl

theorem valid_ofNumber (number : Int) : (ofNumber number).Valid := by
  unfold ofNumber
  constructor <;> simp only <;> omega

theorem number_ofNumber (number : Int) : (ofNumber number).number = number := by
  unfold ofNumber DayPlace.number
  simp only
  omega

variable {place}

theorem Valid.month (hvalid : place.Valid) :
    place.month ≤ 11 ∧ 153 * place.month ≤ 5 * place.dayOfYear + 2
      ∧ 5 * place.dayOfYear + 2 < 153 * (place.month + 1) := by
  have hday := hvalid.dayOfYear
  unfold DayPlace.month
  omega

theorem Valid.dayNumber_date (hvalid : place.Valid) : place.date.dayNumber = place.number := by
  obtain ⟨hmonth, hfirst, -⟩ := hvalid.month
  obtain ⟨hcentury, hspan, hyear, -, -⟩ := hvalid
  have hmarch : (place.date.month + 9) % 12 = place.month := by
    unfold date
    simp only
    split <;> omega
  have hyearOfMarch : (if place.date.month ≤ 2 then place.date.year - 1 else place.date.year)
      = place.year := by
    unfold date
    simp only
    split <;> split <;> omega
  unfold Date.dayNumber
  simp only [hmarch, hyearOfMarch]
  unfold date number year
  simp only
  omega

theorem Valid.isLeapYear (hvalid : place.Valid) (hday : place.dayOfYear = 365) :
    isLeapYear (place.year + 1) = true := by
  obtain ⟨hthird, hcentury⟩ := hvalid.leap hday
  have hspan := hvalid.span
  have hmost := hvalid.century
  rw [isLeapYear_iff, year]
  omega

theorem Valid.valid_date (hvalid : place.Valid) : place.date.Valid := by
  obtain ⟨hmonth, hfirst, hlast⟩ := hvalid.month
  have hday := hvalid.dayOfYear
  refine ⟨Nat.le_add_left 1 _, ?_⟩
  by_cases hfebruary : place.month = 11
  · have hlength : daysInMonth place.date.year place.date.month
        = if Calendar.isLeapYear (place.year + 1) then 29 else 28 := by
      simp [date, hfebruary, daysInMonth]
    have hshown : place.date.day = place.dayOfYear - 336 := by
      simp only [date, hfebruary]
      omega
    rw [hlength, hshown]
    split
    · omega
    · next hshort =>
      have hordinary : place.dayOfYear ≠ 365 := fun hend => hshort (hvalid.isLeapYear hend)
      omega
  · have hcases : place.month = 0 ∨ place.month = 1 ∨ place.month = 2 ∨ place.month = 3
        ∨ place.month = 4 ∨ place.month = 5 ∨ place.month = 6 ∨ place.month = 7 ∨ place.month = 8
        ∨ place.month = 9 ∨ place.month = 10 := by
      omega
    rcases hcases with heq | heq | heq | heq | heq | heq | heq | heq | heq | heq | heq <;>
      simp [date, heq, daysInMonth] <;> omega

end DayPlace

/-- Every number is that of a day of the calendar. -/
theorem dayNumber_ofDayNumber (number : Int) : (Date.ofDayNumber number).dayNumber = number := by
  rw [← DayPlace.date_ofNumber, (DayPlace.valid_ofNumber number).dayNumber_date,
    DayPlace.number_ofNumber]

theorem valid_ofDayNumber (number : Int) : (Date.ofDayNumber number).Valid := by
  rw [← DayPlace.date_ofNumber]
  exact (DayPlace.valid_ofNumber number).valid_date

theorem leapDays_mono {year later : Int} (hlater : year ≤ later) :
    year / 4 - year / 100 + year / 400 ≤ later / 4 - later / 100 + later / 400 := by
  have hspans : year / 4 ≤ later / 4 := by omega
  have hcycles : year / 400 ≤ later / 400 := by omega
  have hcenturies : ∀ year : Int, year / 100 = year / 4 / 25 := by
    intro year
    omega
  rw [hcenturies year, hcenturies later]
  omega

/-- A day that lies in range has a year that does. -/
theorem year_bounds {date : Date} (hvalid : date.Valid)
    (hfirst : Instant.earliestSecond ≤ date.dayNumber * 86400 + 86399)
    (hlast : date.dayNumber * 86400 ≤ Instant.latestSecond) :
    Instant.earliestYear ≤ date.year ∧ date.year ≤ Instant.latestYear := by
  obtain ⟨hjanuary, hdecember, hday⟩ := hvalid.bounds
  obtain ⟨hone, -⟩ := hvalid
  unfold Instant.earliestSecond Date.dayNumber epochDay at hfirst
  unfold Instant.latestSecond Date.dayNumber epochDay at hlast
  unfold Instant.earliestYear Instant.latestYear
  simp only at hfirst hlast
  -- The years that count from March; a date in January or February belongs to the one before.
  obtain ⟨year, hyear⟩ : ∃ year, year = if date.month ≤ 2 then date.year - 1 else date.year :=
    ⟨_, rfl⟩
  rw [← hyear] at hfirst hlast
  have hspring : date.month ≤ 2 → 306 ≤ (153 * ((date.month + 9) % 12) + 2) / 5 := by omega
  have hothers : ¬ date.month ≤ 2 → (153 * ((date.month + 9) % 12) + 2) / 5 ≤ 275 := by omega
  constructor
  · by_contra hearly
    have hmono : year ≤ -262144 → _ := @leapDays_mono year (-262144)
    split at hyear <;> omega
  · by_contra hlate
    have hmono : 262142 ≤ year → _ := @leapDays_mono 262142 year
    split at hyear <;> omega

/-! ## What a clock shows -/

namespace Instant

/-- An instant that a clock can show: in range, and within a second or the leap second after it, of
which there is none but at the end of a minute. -/
structure Valid (instant : Instant) : Prop where
  inRange : instant.InRange
  nano : instant.nano < 2 * nanosPerSecond
  leap : instant.isLeap = true → instant.second % 60 = 59

/-- The instant without its fraction of a second. A leap second stays one. -/
def whole (instant : Instant) : Instant :=
  { instant with nano := if instant.isLeap then nanosPerSecond else 0 }

variable (instant : Instant) (offset : Int)

/-- The date on a clock that is `offset` seconds ahead of UTC. -/
def localDate : Date := Date.ofDayNumber ((instant.second + offset) / secondsPerDay)

/-- The second of the day on such a clock. -/
def localSecond : Nat := ((instant.second + offset) % secondsPerDay).toNat

/-- What such a clock shows. -/
def shown : Fields where
  date := instant.localDate offset
  hour := instant.localSecond offset / 3600
  minute := instant.localSecond offset / 60 % 60
  second := instant.localSecond offset % 60 + instant.nano / nanosPerSecond
  nano := 0
  offset

theorem characters_eq :
    instant.characters offset
      = (instant.localDate offset).signedCharacters ++ ' ' ::
        (padded 2 (instant.shown offset).hour ++ ':' :: (padded 2 (instant.shown offset).minute
          ++ ':' :: padded 2 (instant.shown offset).second)) := by
  simp [characters, Date.signedCharacters, localDate, shown, localSecond]

theorem valid_localDate : (instant.localDate offset).Valid := valid_ofDayNumber _

theorem dayNumber_localDate :
    (instant.localDate offset).dayNumber = (instant.second + offset) / 86400 :=
  dayNumber_ofDayNumber _

theorem second_eq :
    instant.second + offset
      = (instant.localDate offset).dayNumber * 86400 + instant.localSecond offset := by
  rw [dayNumber_localDate, localSecond, secondsPerDay]
  omega

theorem localSecond_lt : instant.localSecond offset < 86400 := by
  unfold localSecond secondsPerDay
  omega

variable {instant} {offset}

theorem leap_iff (hnano : instant.nano < 2 * nanosPerSecond) :
    instant.nano / nanosPerSecond = if instant.isLeap then 1 else 0 := by
  unfold isLeap
  unfold nanosPerSecond at hnano ⊢
  by_cases hleap : 1000000000 ≤ instant.nano
  · rw [decide_eq_true hleap, if_pos rfl]
    omega
  · rw [decide_eq_false hleap, if_neg Bool.false_ne_true]
    omega

theorem shown_bounds (hnano : instant.nano < 2 * nanosPerSecond) :
    (instant.shown 0).hour ≤ 23 ∧ (instant.shown 0).minute ≤ 59
      ∧ (instant.shown 0).second ≤ 60 := by
  have hday := instant.localSecond_lt 0
  simp only [shown, leap_iff hnano]
  refine ⟨by omega, by omega, ?_⟩
  split <;> omega

/-- Second 60 is shown just in a leap second, which follows second 59. -/
theorem Valid.second_shown_iff (hvalid : instant.Valid) :
    (instant.shown 0).second = 60 ↔ instant.isLeap = true := by
  have hsecond := instant.second_eq 0
  rw [Int.add_zero] at hsecond
  rw [shown, leap_iff hvalid.nano]
  simp only
  constructor
  · intro hsixty
    by_contra hordinary
    rw [if_neg hordinary] at hsixty
    omega
  · intro hleaps
    have hlast := hvalid.leap hleaps
    rw [if_pos hleaps]
    omega

theorem Valid.clock_shown (hvalid : instant.Valid) :
    3600 * (instant.shown 0).hour + 60 * (instant.shown 0).minute
        + (if (instant.shown 0).second = 60 then 59 else (instant.shown 0).second)
      = instant.localSecond 0 := by
  have hsecond := instant.second_eq 0
  rw [Int.add_zero] at hsecond
  by_cases hleaps : instant.isLeap = true
  · have hlast := hvalid.leap hleaps
    rw [if_pos (hvalid.second_shown_iff.mpr hleaps)]
    simp only [shown]
    omega
  · rw [if_neg (mt hvalid.second_shown_iff.mp hleaps)]
    simp only [shown, leap_iff hvalid.nano, if_neg hleaps]
    omega

/-- The fields that a clock for UTC shows name the instant. -/
theorem Valid.instant?_shown (hvalid : instant.Valid) :
    (instant.shown 0).instant? = some instant.whole := by
  have hday := instant.localSecond_lt 0
  have hsecond := instant.second_eq 0
  rw [Int.add_zero] at hsecond
  have hyear : earliestYear ≤ (instant.localDate 0).year
      ∧ (instant.localDate 0).year ≤ latestYear := by
    obtain ⟨hearliest, hlatest⟩ := hvalid.inRange
    apply year_bounds (instant.valid_localDate 0) <;> omega
  have hnamed : Instant.mk
      ((instant.shown 0).date.dayNumber * secondsPerDay
        + (3600 * (instant.shown 0).hour + 60 * (instant.shown 0).minute
          + (if (instant.shown 0).second = 60 then 59 else (instant.shown 0).second) : Nat)
        - (instant.shown 0).offset)
      (if (instant.shown 0).second = 60 then (instant.shown 0).nano + nanosPerSecond
        else (instant.shown 0).nano) = instant.whole := by
    rw [hvalid.clock_shown, if_congr hvalid.second_shown_iff rfl rfl]
    simp only [shown, whole, secondsPerDay, Nat.zero_add, Int.sub_zero, ← hsecond]
  obtain ⟨hhour, hminute, hlast⟩ := shown_bounds hvalid.nano
  unfold Fields.instant?
  simp only [hnamed]
  apply if_pos
  exact ⟨instant.valid_localDate 0, hyear.1, hyear.2, hhour, hminute, hlast,
    Nat.zero_lt_succ _, hvalid.inRange⟩

/-! ## Reading what a clock shows -/

theorem scan?_characters (hnano : instant.nano < 2 * nanosPerSecond) :
    Pattern.scan? (datePattern ++ [.space] ++ secondPattern) .blank (instant.characters 0)
      = some (instant.shown 0, []) := by
  obtain ⟨hhour, hminute, hlast⟩ := shown_bounds hnano
  have hsecond : (instant.shown 0).second < 100 := Nat.lt_of_le_of_lt hlast (by decide)
  have hminutes := @scan?_time .blank (':' :: padded 2 (instant.shown 0).second) _
    (instant.valid_localDate 0) true _ _ hhour hminute
  have hseconds := @scan?_seconds { Fields.blank with
      date := instant.localDate 0, hour := (instant.shown 0).hour,
      minute := (instant.shown 0).minute } [] _ [] hsecond (Nat.zero_le 9) nofun isApart_nil
  simp only [if_true, List.append_nil] at hminutes hseconds
  rw [characters_eq]
  change Pattern.scan? (datePattern ++ [separator true] ++ minutePattern
    ++ [.literal ':', .second, .fraction]) .blank _ = _
  exact scan?_append_eq_some_iff.mpr ⟨_, _, hminutes, hseconds⟩

theorem endsInDigit_characters : EndsInDigit (instant.characters offset) := by
  have hparts : instant.characters offset
      = ((instant.localDate offset).signedCharacters ++ ' ' ::
          (padded 2 (instant.shown offset).hour ++ ':' :: (padded 2 (instant.shown offset).minute
            ++ [':']))) ++ padded 2 (instant.shown offset).second := by
    rw [characters_eq]
    simp
  rw [hparts]
  exact endsInDigit_padded _ _

theorem trimStart_signedCharacters (date : Date) (rest : List Char) :
    Text.trimStart (date.signedCharacters ++ rest) = date.signedCharacters ++ rest := by
  unfold Date.signedCharacters yearText
  split
  · simp only [List.append_assoc, trimStart_padded]
  · split <;> exact List.dropWhile_cons_of_neg (by decide)

theorem read_characters (hvalid : instant.Valid) :
    Instant.read (instant.text 0) = .ok instant.whole := by
  have htrim : Text.trim (instant.text 0).toList = instant.characters 0 := by
    rw [text, String.toList_ofList, Text.trim, characters_eq, trimStart_signedCharacters,
      ← characters_eq]
    exact trimEnd_of_digit endsInDigit_characters
  have hdropped : dropZulu (instant.characters 0) = instant.characters 0 := by
    obtain ⟨front, digit, hfront, hdigit⟩ := @endsInDigit_characters instant 0
    have hlast : (instant.characters 0).getLast? = some digit := by
      rw [hfront, List.getLast?_concat]
    have hnothing := dropZulu_append_of_digit hdigit hlast (Or.inl rfl)
    rwa [List.append_nil] at hnothing
  have hreading : (fun text => Pattern.instant? (datePattern ++ [.space] ++ secondPattern)
      (dropZulu text)) ∈ readings := by
    simp [readings, dateReadings, plainPatterns]
  apply read_of_reading hreading
  rw [htrim, hdropped]
  exact instant?_eq_some_iff.mpr
    ⟨instant.shown 0, scan?_characters hvalid.nano, hvalid.instant?_shown⟩

/-! ## Reading what a clock of another zone shows -/

/-- The zone whose clocks are so many seconds ahead of UTC, which are whole minutes. -/
def zone (offset : Int) : Zone :=
  .offset (offset < 0) true (offset.natAbs / 3600) (offset.natAbs / 60 % 60)

/-- What a clock of a zone shows, with a `T` for the space and the zone behind it. -/
def zonedCharacters (instant : Instant) (offset : Int) : List Char :=
  ((instant.characters offset).map fun character => if character = ' ' then 'T' else character)
    ++ (zone offset).characters

/-- The text with the zone as a way to write an instant. -/
def spelling (instant : Instant) (offset : Int) : Spelling where
  date := instant.localDate offset
  isSpaced := false
  clock := .seconds (instant.shown offset).hour (instant.shown offset).minute
    (instant.shown offset).second []
  zone := zone offset

theorem zonedCharacters_eq
    (hyear : 0 ≤ (instant.localDate offset).year ∧ (instant.localDate offset).year ≤ 9999) :
    instant.zonedCharacters offset = (instant.spelling offset).characters := by
  have hkept : ∀ width number, (padded width number).map
      (fun character => if character = ' ' then 'T' else character) = padded width number := by
    intro width number
    refine (List.map_congr_left fun character hmem => if_neg ?_).trans (List.map_id _)
    rintro rfl
    cases isDigit_of_mem_padded hmem
  have hdate := characters_of_year hyear
  rw [zonedCharacters, characters_eq, ← hdate]
  simp [Date.characters, hkept, spelling, Spelling.characters, Spelling.plainCharacters,
    Clock.characters]

theorem ahead_zone (hminutes : offset % 60 = 0) : (zone offset).ahead = offset := by
  unfold zone Zone.ahead
  by_cases hbehind : offset < 0
  · simp only [decide_eq_true hbehind, if_true]
    omega
  · simp only [decide_eq_false hbehind, if_neg Bool.false_ne_true]
    omega

theorem valid_spelling (hordinary : instant.isLeap = false)
    (hnano : instant.nano < 2 * nanosPerSecond) (hoffset : offset.natAbs < 86400)
    (hyear : 0 ≤ (instant.localDate offset).year ∧ (instant.localDate offset).year ≤ 9999) :
    (instant.spelling offset).Valid := by
  have hday := instant.localSecond_lt offset
  refine ⟨instant.valid_localDate offset, hyear, ⟨?_, ?_, ?_, Nat.zero_le 9, nofun⟩,
    ⟨?_, ?_, rfl, nofun⟩⟩
  · simp only [shown]
    omega
  · simp only [shown]
    omega
  · simp only [shown, leap_iff hnano, hordinary, if_neg Bool.false_ne_true]
    omega
  · omega
  · omega

theorem instant_spelling (hordinary : instant.isLeap = false)
    (hnano : instant.nano < 2 * nanosPerSecond) (hminutes : offset % 60 = 0) :
    (instant.spelling offset).instant = instant.whole := by
  have hsecond := instant.second_eq offset
  have hclock : (instant.spelling offset).clock.secondOfDay = instant.localSecond offset := by
    simp only [spelling, Clock.secondOfDay, shown, leap_iff hnano, hordinary,
      if_neg Bool.false_ne_true]
    omega
  have hdate : (instant.spelling offset).date = instant.localDate offset := rfl
  have hzone : (instant.spelling offset).zone.ahead = offset := ahead_zone hminutes
  unfold Spelling.instant whole
  rw [hclock, hzone, hdate, hordinary, if_neg Bool.false_ne_true, ← hsecond, Int.add_sub_cancel]
  rfl

theorem read_zonedCharacters (hordinary : instant.isLeap = false)
    (hnano : instant.nano < 2 * nanosPerSecond) (hminutes : offset % 60 = 0)
    (hoffset : offset.natAbs < 86400)
    (hyear : 0 ≤ (instant.localDate offset).year ∧ (instant.localDate offset).year ≤ 9999) :
    Instant.read (String.ofList (instant.zonedCharacters offset)) = .ok instant.whole := by
  have hvalid := valid_spelling hordinary hnano hoffset hyear
  obtain ⟨reading, hreading, haccepts⟩ := exists_reading hvalid
  rw [instant_spelling hordinary hnano hminutes] at haccepts
  apply read_of_reading hreading
  rw [String.toList_ofList, zonedCharacters_eq hyear, trim_characters hvalid.clock]
  exact haccepts

/-- **What a clock shows is read back.** The text of an instant in UTC is read as the instant
without its fraction of a second, in any year and also in a leap second. Outside leap seconds the
same holds of its text in a zone that is whole minutes from UTC, once the zone is written behind it,
as long as the year that the clock shows has four digits. -/
theorem read_text {instant : Instant} (hvalid : instant.Valid) :
    Instant.read (instant.text 0) = .ok instant.whole
      ∧ ∀ offset : Int, instant.isLeap = false → offset % 60 = 0 → offset.natAbs < 86400 →
        0 ≤ (instant.localDate offset).year → (instant.localDate offset).year ≤ 9999 →
        Instant.read (String.ofList (instant.zonedCharacters offset))
          = .ok ⟨instant.second, 0⟩ := by
  refine ⟨read_characters hvalid, ?_⟩
  intro offset hordinary hminutes hoffset hleast hmost
  have hwhole : instant.whole = ⟨instant.second, 0⟩ := by
    rw [whole, hordinary, if_neg Bool.false_ne_true]
  rw [← hwhole]
  exact read_zonedCharacters hordinary hvalid.nano hminutes hoffset ⟨hleast, hmost⟩

/-- A second before the year 0, which a clock one minute ahead shows in the year 0, and a leap
second. -/
theorem read_text_of_year_before :
    let instant : Instant := ⟨-62167219201, 500000000⟩
    let leap : Instant := ⟨1483228799, 1500000000⟩
    instant.Valid ∧ leap.Valid
      ∧ Instant.read "-0001-12-31 23:59:59" = .ok ⟨-62167219201, 0⟩
      ∧ Instant.read "0000-01-01T00:00:59+00:01" = .ok ⟨-62167219201, 0⟩
      ∧ Instant.read "2016-12-31 23:59:60" = .ok ⟨1483228799, 1000000000⟩ := by
  intro instant leap
  have hvalid : instant.Valid := ⟨by decide, by decide, by decide⟩
  have hleap : leap.Valid := ⟨by decide, by decide, by decide⟩
  obtain ⟨hutc, hzoned⟩ := read_text hvalid
  have hbefore : instant.text 0 = "-0001-12-31 23:59:59" := by
    rw [text, show instant.characters 0 = "-0001-12-31 23:59:59".toList by decide,
      String.ofList_toList]
  have hahead : instant.zonedCharacters 60 = "0000-01-01T00:00:59+00:01".toList := by decide
  have hsixty : leap.text 0 = "2016-12-31 23:59:60" := by
    rw [text, show leap.characters 0 = "2016-12-31 23:59:60".toList by decide,
      String.ofList_toList]
  refine ⟨hvalid, hleap, ?_, ?_, ?_⟩
  · rw [← hbefore]
    exact hutc
  · have hread := hzoned 60 (by decide) (by decide) (by decide) (by decide) (by decide)
    rw [hahead, String.ofList_toList] at hread
    exact hread
  · rw [← hsixty]
    exact (read_text hleap).1

end Instant

end AddressBoard.Calendar

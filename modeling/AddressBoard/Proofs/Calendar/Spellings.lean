import AddressBoard.Proofs.Calendar.DayCount
import AddressBoard.Proofs.Calendar.Unambiguous

/-!
# Spellings of an instant

A time can be written in many ways: to the minute or to the second, with a `T` or a space behind
the date, and for a zone that is named by a letter, by an offset, or not at all. However it is
written, it is read as the instant that it names: some reading accepts it, and the readings agree.
-/

namespace AddressBoard.Calendar

open Numeral (padded)

/-- How the zone of a time is written: not at all, as one letter for UTC, or as an offset. -/
inductive Zone where
  | unwritten
  | letter (isSmall : Bool)
  | offset (isBehind hasColon : Bool) (hours minutes : Nat)
deriving DecidableEq, Repr

/-- How exactly the time of day is written. A fraction of a second is given by its digits, and
without a time of day a date stands for its midnight. -/
inductive Clock where
  | unwritten
  | minutes (hour minute : Nat)
  | seconds (hour minute second : Nat) (fraction : List Char)
deriving DecidableEq, Repr

structure Spelling where
  date : Date
  isSpaced : Bool
  clock : Clock
  zone : Zone
deriving DecidableEq, Repr

/-! ## What is written -/

def Date.characters (date : Date) : List Char :=
  padded 4 date.year.toNat ++ '-' :: padded 2 date.month ++ '-' :: padded 2 date.day

def Clock.characters : Clock → List Char
  | unwritten => []
  | minutes hour minute => padded 2 hour ++ ':' :: padded 2 minute
  | seconds hour minute second fraction =>
    padded 2 hour ++ ':' :: padded 2 minute ++ ':' :: padded 2 second
      ++ if fraction = [] then [] else '.' :: fraction

def Zone.characters : Zone → List Char
  | unwritten => []
  | letter isSmall => [if isSmall then 'z' else 'Z']
  | offset isBehind hasColon hours minutes =>
    (if isBehind then '-' else '+') :: padded 2 hours ++ (if hasColon then [':'] else [])
      ++ padded 2 minutes

/-- The date and the time of day, without the zone. -/
def Spelling.plainCharacters (spelling : Spelling) : List Char :=
  match spelling.clock with
  | .unwritten => spelling.date.characters
  | clock =>
    spelling.date.characters ++ (if spelling.isSpaced then ' ' else 'T') :: clock.characters

def Spelling.characters (spelling : Spelling) : List Char :=
  spelling.plainCharacters ++ spelling.zone.characters

/-- A date of any year. One that is not of four digits carries its sign. -/
def Date.signedCharacters (date : Date) : List Char :=
  Instant.yearText date.year ++ '-' :: padded 2 date.month ++ '-' :: padded 2 date.day

theorem characters_of_year {date : Date} (hyear : 0 ≤ date.year ∧ date.year ≤ 9999) :
    date.characters = date.signedCharacters := by
  rw [Date.characters, Date.signedCharacters, Instant.yearText, if_pos hyear]

/-! ## What it names -/

/-- The second of the day. -/
def Clock.secondOfDay : Clock → Nat
  | unwritten => 0
  | minutes hour minute => 3600 * hour + 60 * minute
  | seconds hour minute second _ => 3600 * hour + 60 * minute + second

def Clock.nanos : Clock → Nat
  | unwritten => 0
  | minutes _ _ => 0
  | seconds _ _ _ fraction =>
    Nat.ofDigitChars 10 fraction 0 * Nat.pow 10 (9 - fraction.length)

/-- How many seconds the clocks of the zone are ahead of UTC. -/
def Zone.ahead : Zone → Int
  | unwritten => 0
  | letter _ => 0
  | offset isBehind _ hours minutes =>
    (if isBehind then -1 else 1) * (3600 * hours + 60 * minutes : Nat)

def Spelling.instant (spelling : Spelling) : Instant where
  second := spelling.date.dayNumber * 86400 + spelling.clock.secondOfDay - spelling.zone.ahead
  nano := spelling.clock.nanos

/-! ## What can be written -/

def Clock.Valid : Clock → Prop
  | unwritten => True
  | minutes hour minute => hour ≤ 23 ∧ minute ≤ 59
  | seconds hour minute second fraction =>
    hour ≤ 23 ∧ minute ≤ 59 ∧ second ≤ 59 ∧ fraction.length ≤ 9
      ∧ ∀ character ∈ fraction, character.isDigit = true

/-- An offset stands only behind a time, and only if that follows its date after a `T`. -/
def Spelling.ValidZone (spelling : Spelling) : Prop :=
  match spelling.zone with
  | .unwritten | .letter _ => True
  | .offset _ _ hours minutes =>
    hours ≤ 23 ∧ minutes ≤ 59 ∧ spelling.isSpaced = false ∧ spelling.clock ≠ .unwritten

structure Spelling.Valid (spelling : Spelling) : Prop where
  date : spelling.date.Valid
  year : 0 ≤ spelling.date.year ∧ spelling.date.year ≤ 9999
  clock : spelling.clock.Valid
  zone : spelling.ValidZone

/-! ## Where a text ends -/

def EndsInDigit (text : List Char) : Prop :=
  ∃ front digit, text = front ++ [digit] ∧ digit.isDigit = true

theorem endsInDigit_append {digits : List Char} (hsome : digits ≠ [])
    (hdigits : ∀ character ∈ digits, character.isDigit = true) (front : List Char) :
    EndsInDigit (front ++ digits) := by
  obtain ⟨others, digit, rfl⟩ := (List.eq_nil_or_concat digits).resolve_left hsome
  refine ⟨front ++ others, digit, ?_, hdigits digit (by simp)⟩
  simp

theorem padded_ne_nil (width number : Nat) : padded width number ≠ [] := by
  simp [padded, Nat.toDigits_ne_nil]

theorem endsInDigit_padded (front : List Char) (number : Nat) :
    EndsInDigit (front ++ padded 2 number) :=
  endsInDigit_append (padded_ne_nil 2 number) (fun _ => isDigit_of_mem_padded) front

theorem endsInDigit_plain {spelling : Spelling} (hclock : spelling.clock.Valid) :
    EndsInDigit spelling.plainCharacters := by
  obtain ⟨date, isSpaced, clock, zone⟩ := spelling
  cases clock with
  | unwritten =>
    have hparts : date.characters
        = (padded 4 date.year.toNat ++ '-' :: padded 2 date.month ++ ['-'])
          ++ padded 2 date.day := by
      simp [Date.characters]
    rw [Spelling.plainCharacters, hparts]
    exact endsInDigit_padded _ date.day
  | minutes hour minute =>
    have hparts : Spelling.plainCharacters ⟨date, isSpaced, .minutes hour minute, zone⟩
        = (date.characters ++ (if isSpaced then ' ' else 'T') :: padded 2 hour ++ [':'])
          ++ padded 2 minute := by
      simp [Spelling.plainCharacters, Clock.characters]
    rw [hparts]
    exact endsInDigit_padded _ minute
  | seconds hour minute second fraction =>
    obtain ⟨-, -, -, -, hdigits⟩ := hclock
    by_cases hnone : fraction = []
    · have hparts : Spelling.plainCharacters
            ⟨date, isSpaced, .seconds hour minute second fraction, zone⟩
          = (date.characters ++ (if isSpaced then ' ' else 'T') :: padded 2 hour
              ++ ':' :: padded 2 minute ++ [':']) ++ padded 2 second := by
        simp [Spelling.plainCharacters, Clock.characters, hnone]
      rw [hparts]
      exact endsInDigit_padded _ second
    · have hparts : Spelling.plainCharacters
            ⟨date, isSpaced, .seconds hour minute second fraction, zone⟩
          = (date.characters ++ (if isSpaced then ' ' else 'T') :: padded 2 hour
              ++ ':' :: padded 2 minute ++ ':' :: padded 2 second ++ ['.']) ++ fraction := by
        simp [Spelling.plainCharacters, Clock.characters, hnone]
      rw [hparts]
      exact endsInDigit_append hnone hdigits _

/-- A number begins with a digit. -/
theorem eq_cons_of_padded (width number : Nat) :
    ∃ digit others, digit.isDigit = true ∧ padded width number = digit :: others := by
  have hdigits : ∀ character ∈ padded width number, character.isDigit = true :=
    fun _ => isDigit_of_mem_padded
  obtain ⟨digit, others, heq⟩ := List.exists_cons_of_ne_nil (padded_ne_nil width number)
  rw [heq] at hdigits
  exact ⟨digit, others, hdigits digit List.mem_cons_self, heq⟩

theorem trimStart_padded (width number : Nat) (rest : List Char) :
    Text.trimStart (padded width number ++ rest) = padded width number ++ rest := by
  obtain ⟨digit, others, hdigit, heq⟩ := eq_cons_of_padded width number
  rw [heq]
  exact trimStart_of_digit hdigit (others ++ rest)

theorem trimStart_characters (spelling : Spelling) :
    Text.trimStart spelling.characters = spelling.characters := by
  obtain ⟨date, isSpaced, clock, zone⟩ := spelling
  cases clock <;>
    simp only [Spelling.characters, Spelling.plainCharacters, Date.characters, List.append_assoc,
      trimStart_padded]

theorem trimEnd_of_black {front : List Char} {last : Char} (hblack : Text.isBlank last = false) :
    Text.trimEnd (front ++ [last]) = front ++ [last] := by
  simp [Text.trimEnd, hblack]

theorem trimEnd_of_digit {text : List Char} (hends : EndsInDigit text) :
    Text.trimEnd text = text := by
  obtain ⟨front, digit, rfl, hdigit⟩ := hends
  exact trimEnd_of_black (Text.isBlank_of_isDigit hdigit)

theorem trim_characters {spelling : Spelling} (hclock : spelling.clock.Valid) :
    Text.trim spelling.characters = spelling.characters := by
  rw [Text.trim, trimStart_characters]
  have hplain := endsInDigit_plain hclock
  obtain ⟨date, isSpaced, clock, zone⟩ := spelling
  unfold Spelling.characters
  cases zone with
  | unwritten =>
    rw [Zone.characters, List.append_nil]
    exact trimEnd_of_digit hplain
  | letter isSmall =>
    apply trimEnd_of_black
    cases isSmall <;> decide
  | offset isBehind hasColon hours minutes =>
    rw [Zone.characters, ← List.append_assoc]
    exact trimEnd_of_digit (endsInDigit_padded _ minutes)

/-! ## Days -/

theorem dayNumber_bounds {date : Date} (hvalid : date.Valid) (hleast : 0 ≤ date.year)
    (hmost : date.year ≤ 9999) : -1000000 ≤ date.dayNumber ∧ date.dayNumber ≤ 4000000 := by
  obtain ⟨hfirst, hlast, hday⟩ := hvalid.bounds
  unfold Date.dayNumber epochDay
  simp only
  split <;> omega

/-! ## Fields -/

def Clock.hour : Clock → Nat
  | unwritten => 0
  | minutes hour _ => hour
  | seconds hour _ _ _ => hour

def Clock.minute : Clock → Nat
  | unwritten => 0
  | minutes _ minute => minute
  | seconds _ minute _ _ => minute

def Clock.second : Clock → Nat
  | unwritten => 0
  | minutes _ _ => 0
  | seconds _ _ second _ => second

/-- What is read of a spelling. -/
def Spelling.fields (spelling : Spelling) : Fields where
  date := spelling.date
  hour := spelling.clock.hour
  minute := spelling.clock.minute
  second := spelling.clock.second
  nano := spelling.clock.nanos
  offset := spelling.zone.ahead

theorem Clock.Valid.bounds {clock : Clock} (hvalid : clock.Valid) :
    clock.hour ≤ 23 ∧ clock.minute ≤ 59 ∧ clock.second ≤ 59 := by
  cases clock with
  | unwritten => exact ⟨Nat.zero_le _, Nat.zero_le _, Nat.zero_le _⟩
  | minutes hour minute => exact ⟨hvalid.1, hvalid.2, Nat.zero_le _⟩
  | seconds hour minute second fraction => exact ⟨hvalid.1, hvalid.2.1, hvalid.2.2.1⟩

theorem secondOfDay_eq (clock : Clock) :
    clock.secondOfDay = 3600 * clock.hour + 60 * clock.minute + clock.second := by
  cases clock <;> rfl

theorem natAbs_ahead_lt {spelling : Spelling} (hzone : spelling.ValidZone) :
    spelling.zone.ahead.natAbs < 86400 := by
  unfold Spelling.ValidZone at hzone
  unfold Zone.ahead
  split at hzone
  · decide
  · decide
  · next isBehind hasColon hours minutes heq =>
    obtain ⟨hhours, hminutes, -⟩ := hzone
    cases isBehind <;> simp <;> omega

theorem instant?_fields {spelling : Spelling} (hvalid : spelling.Valid) :
    spelling.fields.instant? = some spelling.instant := by
  obtain ⟨hhour, hminute, hsecond⟩ := hvalid.clock.bounds
  obtain ⟨hleast, hmost⟩ := dayNumber_bounds hvalid.date hvalid.year.1 hvalid.year.2
  have hahead := natAbs_ahead_lt hvalid.zone
  obtain ⟨hfirst, hlast⟩ := hvalid.year
  have hordinary : spelling.clock.second ≠ 60 := Nat.ne_of_lt (Nat.lt_succ_of_le hsecond)
  have hnamed : Instant.mk (spelling.date.dayNumber * Instant.secondsPerDay
      + (3600 * spelling.clock.hour + 60 * spelling.clock.minute + spelling.clock.second : Nat)
      - spelling.zone.ahead) spelling.clock.nanos = spelling.instant := by
    rw [Spelling.instant, secondOfDay_eq]
    rfl
  have hrange : spelling.instant.InRange := by
    rw [Instant.InRange, Instant.earliestSecond, Instant.latestSecond, Spelling.instant,
      secondOfDay_eq]
    constructor <;> simp only <;> omega
  unfold Fields.instant?
  simp only [Spelling.fields, hordinary, if_false, hnamed]
  apply if_pos
  refine ⟨hvalid.date, ?_, ?_, hhour, hminute, Nat.le_succ_of_le hsecond, hahead, hrange⟩
  · exact Int.le_trans (by decide) hfirst
  · exact Int.le_trans hlast (by decide)

/-! ## Reading what is written -/

/-- A text that goes on with no digit and no point, so that neither a number nor a fraction before
it reaches into it. -/
def IsApart (rest : List Char) : Prop :=
  ∀ character ∈ rest.head?, character.isDigit = false ∧ character ≠ '.'

theorem digits?_append {digits : List Char} (hsome : digits ≠ [])
    (hdigits : ∀ character ∈ digits, character.isDigit = true) {rest : List Char}
    (hapart : IsApart rest) : digits? (digits ++ rest) = some (digits, rest) := by
  have hnone : rest.takeWhile Char.isDigit = [] ∧ rest.dropWhile Char.isDigit = rest := by
    cases rest with
    | nil => exact ⟨rfl, rfl⟩
    | cons character others =>
      have hother := ne_true_of_eq_false (hapart character rfl).1
      exact ⟨List.takeWhile_cons_of_neg hother, List.dropWhile_cons_of_neg hother⟩
  refine digits?_eq_some_iff.mpr ⟨hsome, ?_, ?_⟩
  · rw [List.takeWhile_append_of_pos hdigits, hnone.1, List.append_nil]
  · rw [List.dropWhile_append_of_pos hdigits, hnone.2]

theorem nanosOfDigits_of_le {digits : List Char} (hshort : digits.length ≤ 9) :
    nanosOfDigits digits = Nat.ofDigitChars 10 digits 0 * Nat.pow 10 (9 - digits.length) := by
  rw [nanosOfDigits, List.take_append, List.take_of_length_le hshort, List.take_replicate,
    Nat.min_eq_left (Nat.sub_le 9 _), Nat.ofDigitChars_append, Nat.ofDigitChars_replicate_zero]
  exact Nat.mul_comm _ _

theorem fraction?_of_apart {rest : List Char} (hapart : IsApart rest) :
    fraction? rest = some (0, rest) := by
  cases rest with
  | nil => rfl
  | cons character others => exact fraction?_of_ne (hapart character rfl).2

section Written

variable {fields : Fields} {rest : List Char}

theorem year?_written (year : Int) (rest : List Char) :
    year? (Instant.yearText year ++ '-' :: rest) = some (year, '-' :: rest) := by
  have hapart : IsApart ('-' :: rest) := by
    intro character hfirst
    obtain rfl := Option.mem_some.mp hfirst
    decide
  have hdigits : digits? (padded 4 year.natAbs ++ '-' :: rest)
      = some (padded 4 year.natAbs, '-' :: rest) :=
    digits?_append (padded_ne_nil 4 _) (fun _ => isDigit_of_mem_padded) hapart
  have hvalue := ofDigitChars_padded 4 year.natAbs
  unfold Instant.yearText
  by_cases hshort : 0 ≤ year ∧ year ≤ 9999
  · rw [if_pos hshort, year?_padded (by omega), Int.toNat_of_nonneg hshort.1]
  · rw [if_neg hshort, List.cons_append]
    by_cases hnegative : year < 0
    · rw [if_pos hnegative]
      refine year?_eq_some_iff.mpr (Or.inr (Or.inl ⟨_, _, rfl, hdigits, ?_⟩))
      omega
    · rw [if_neg hnegative]
      refine year?_eq_some_iff.mpr (Or.inr (Or.inr ⟨_, _, rfl, hdigits, ?_⟩))
      omega

theorem scan?_date {date : Date} (hvalid : date.Valid) :
    datePattern.scan? fields (date.signedCharacters ++ rest)
      = some ({ fields with date }, rest) := by
  obtain ⟨-, hmonth, hday⟩ := hvalid.bounds
  have hmonths : ∀ rest, number? 2 (padded 2 date.month ++ rest) = some (date.month, rest) :=
    number?_padded (by omega)
  have hdays : ∀ rest, number? 2 (padded 2 date.day ++ rest) = some (date.day, rest) :=
    number?_padded (by omega)
  simp [datePattern, Pattern.scan?, Item.scan?, Date.signedCharacters, literal?, year?_written,
    hmonths, hdays]

theorem scan?_minutes {hour minute : Nat} (hhour : hour ≤ 23) (hminute : minute ≤ 59) :
    minutePattern.scan? fields (padded 2 hour ++ ':' :: padded 2 minute ++ rest)
      = some ({ fields with hour, minute }, rest) := by
  have hhours : ∀ rest, number? 2 (padded 2 hour ++ rest) = some (hour, rest) :=
    number?_padded (by omega)
  have hminutes : ∀ rest, number? 2 (padded 2 minute ++ rest) = some (minute, rest) :=
    number?_padded (by omega)
  simp [minutePattern, Pattern.scan?, Item.scan?, literal?, hhours, hminutes]

theorem fraction?_written {fraction : List Char} (hshort : fraction.length ≤ 9)
    (hdigits : ∀ character ∈ fraction, character.isDigit = true) (hapart : IsApart rest) :
    fraction? ((if fraction = [] then [] else '.' :: fraction) ++ rest)
      = some (Nat.ofDigitChars 10 fraction 0 * Nat.pow 10 (9 - fraction.length), rest) := by
  by_cases hnone : fraction = []
  · rw [if_pos hnone, List.nil_append, fraction?_of_apart hapart, hnone, Nat.ofDigitChars_nil,
      Nat.zero_mul]
  · rw [if_neg hnone, List.cons_append, ← nanosOfDigits_of_le hshort, fraction?,
      digits?_append hnone hdigits hapart]
    rfl

theorem scan?_seconds {second : Nat} {fraction : List Char} (hsecond : second < 100)
    (hshort : fraction.length ≤ 9) (hdigits : ∀ character ∈ fraction, character.isDigit = true)
    (hapart : IsApart rest) :
    Pattern.scan? [.literal ':', .second, .fraction] fields
        (':' :: padded 2 second ++ (if fraction = [] then [] else '.' :: fraction) ++ rest)
      = some ({ fields with
          second, nano := Nat.ofDigitChars 10 fraction 0 * Nat.pow 10 (9 - fraction.length) },
          rest) := by
  have hseconds : ∀ rest, number? 2 (padded 2 second ++ rest) = some (second, rest) :=
    number?_padded hsecond
  have hnanos := fraction?_written hshort hdigits hapart
  simp only [Pattern.scan?, Item.scan?, literal?, List.cons_append, List.append_assoc]
  simp [hseconds, hnanos]

/-- The part of a pattern that reads what stands between a date and a time. -/
def separator (isSpaced : Bool) : Item := if isSpaced then .space else .literal 'T'

theorem scan?_separator (isSpaced : Bool) (hour : Nat) :
    (separator isSpaced).scan? fields
        ((if isSpaced then ' ' else 'T') :: (padded 2 hour ++ rest))
      = some (fields, padded 2 hour ++ rest) := by
  cases isSpaced with
  | true =>
    have hblank : Text.trimStart (' ' :: (padded 2 hour ++ rest))
        = Text.trimStart (padded 2 hour ++ rest) := List.dropWhile_cons_of_pos (by decide)
    simp [separator, Item.scan?, hblank, trimStart_padded]
  | false => simp [separator, Item.scan?, literal?]

theorem scan?_time {date : Date} (hvalid : date.Valid) (isSpaced : Bool) {hour minute : Nat}
    (hhour : hour ≤ 23) (hminute : minute ≤ 59) :
    Pattern.scan? (datePattern ++ [separator isSpaced] ++ minutePattern) fields
        (date.signedCharacters ++ (if isSpaced then ' ' else 'T')
          :: (padded 2 hour ++ ':' :: (padded 2 minute ++ rest)))
      = some ({ fields with date, hour, minute }, rest) := by
  have hseparator : Pattern.scan? [separator isSpaced] { fields with date }
      ((if isSpaced then ' ' else 'T') :: (padded 2 hour ++ ':' :: (padded 2 minute ++ rest)))
      = some ({ fields with date }, padded 2 hour ++ ':' :: (padded 2 minute ++ rest)) :=
    scan?_cons_eq_some_iff.mpr ⟨_, _, scan?_separator isSpaced hour, rfl⟩
  have hminutes : minutePattern.scan? { fields with date }
      (padded 2 hour ++ ':' :: (padded 2 minute ++ rest))
      = some ({ fields with date, hour, minute }, rest) := by
    rw [← List.cons_append, ← List.append_assoc]
    exact scan?_minutes hhour hminute
  exact scan?_append_eq_some_iff.mpr ⟨_, _, scan?_append_eq_some_iff.mpr
    ⟨_, _, scan?_date hvalid, hseparator⟩, hminutes⟩

/-- The pattern that a spelling without an offset is read by. -/
def Spelling.pattern (spelling : Spelling) : Pattern :=
  match spelling.clock with
  | .unwritten => datePattern
  | .minutes _ _ => datePattern ++ [separator spelling.isSpaced] ++ minutePattern
  | .seconds _ _ _ _ => datePattern ++ [separator spelling.isSpaced] ++ secondPattern

theorem scan?_plain {spelling : Spelling} (hvalid : spelling.Valid) (hapart : IsApart rest) :
    spelling.pattern.scan? .blank (spelling.plainCharacters ++ rest)
      = some ({ spelling.fields with offset := 0 }, rest) := by
  obtain ⟨date, isSpaced, clock, zone⟩ := spelling
  obtain ⟨hdate, hyear, hclock, -⟩ := hvalid
  have hcharacters : date.characters = date.signedCharacters := characters_of_year hyear
  cases clock with
  | unwritten =>
    rw [Spelling.plainCharacters, hcharacters]
    exact scan?_date hdate
  | minutes hour minute =>
    obtain ⟨hhour, hminute⟩ := hclock
    have hparts : Spelling.plainCharacters ⟨date, isSpaced, .minutes hour minute, zone⟩ ++ rest
        = date.signedCharacters ++ (if isSpaced then ' ' else 'T')
          :: (padded 2 hour ++ ':' :: (padded 2 minute ++ rest)) := by
      simp [Spelling.plainCharacters, Clock.characters, hcharacters]
    rw [hparts]
    exact scan?_time hdate isSpaced hhour hminute
  | seconds hour minute second fraction =>
    obtain ⟨hhour, hminute, hsecond, hshort, hdigits⟩ := hclock
    have hparts : Spelling.plainCharacters
          ⟨date, isSpaced, .seconds hour minute second fraction, zone⟩ ++ rest
        = date.signedCharacters ++ (if isSpaced then ' ' else 'T')
          :: (padded 2 hour ++ ':' :: (padded 2 minute
            ++ (':' :: padded 2 second ++ (if fraction = [] then [] else '.' :: fraction)
              ++ rest))) := by
      simp [Spelling.plainCharacters, Clock.characters, hcharacters]
    rw [hparts]
    change Pattern.scan? (datePattern ++ [separator isSpaced] ++ minutePattern
      ++ [.literal ':', .second, .fraction]) .blank _ = _
    exact scan?_append_eq_some_iff.mpr ⟨_, _,
      scan?_time hdate isSpaced hhour hminute,
      scan?_seconds (Nat.lt_of_le_of_lt hsecond (by decide)) hshort hdigits hapart⟩

theorem offset?_written (isBehind hasColon : Bool) {hours minutes : Nat} (hhours : hours ≤ 23)
    (hminutes : minutes ≤ 59) :
    offset? (fun rest => some (skipColons rest))
        (Zone.offset isBehind hasColon hours minutes).characters
      = some ((Zone.offset isBehind hasColon hours minutes).ahead, []) := by
  have hsign : sign? (Zone.offset isBehind hasColon hours minutes).characters
      = some (if isBehind then -1 else 1,
          padded 2 hours ++ ((if hasColon then [':'] else []) ++ padded 2 minutes)) := by
    rw [Zone.characters, List.cons_append, List.cons_append, List.append_assoc]
    cases isBehind <;> rfl
  have hbetween : skipColons ((if hasColon then [':'] else []) ++ padded 2 minutes)
      = padded 2 minutes := by
    obtain ⟨digit, others, hdigit, heq⟩ := eq_cons_of_padded 2 minutes
    rw [heq]
    cases hasColon with
    | true => exact skipColons_of_digit hdigit others
    | false => exact skipColons_of_digit hdigit others
  have hhour : ∀ rest, fixedNumber? 2 (padded 2 hours ++ rest) = some (hours, rest) :=
    fixedNumber?_padded (by decide) (Nat.lt_of_le_of_lt hhours (by decide))
  have hminute : fixedNumber? 2 (padded 2 minutes ++ []) = some (minutes, []) :=
    fixedNumber?_padded (by decide) (Nat.lt_of_le_of_lt hminutes (by decide)) []
  rw [List.append_nil] at hminute
  exact offset?_eq_some_iff.mpr ⟨_, hours, minutes, _, _, _, hsign, hhour _,
    congrArg some hbetween, hminute, hminutes, rfl⟩

theorem scan?_offset (isBehind hasColon : Bool) {hours minutes : Nat} (hhours : hours ≤ 23)
    (hminutes : minutes ≤ 59) :
    Pattern.scan? [.offset] fields (Zone.offset isBehind hasColon hours minutes).characters
      = some ({ fields with offset := (Zone.offset isBehind hasColon hours minutes).ahead },
          []) := by
  have hblack : Text.trimStart (Zone.offset isBehind hasColon hours minutes).characters
      = (Zone.offset isBehind hasColon hours minutes).characters := by
    cases isBehind <;> exact List.dropWhile_cons_of_neg (by decide)
  have hread := offset?_written isBehind hasColon hhours hminutes
  rw [← hblack] at hread
  exact scan?_cons_eq_some_iff.mpr ⟨_, _, map_fst_eq_some_iff.mpr ⟨_, hread, rfl⟩, rfl⟩

end Written

/-! ## Reading a spelling -/

theorem isApart_nil : IsApart [] := by
  simp [IsApart]

theorem pattern_mem_plainPatterns (spelling : Spelling) : spelling.pattern ∈ plainPatterns := by
  obtain ⟨date, isSpaced, clock, zone⟩ := spelling
  cases clock <;> cases isSpaced <;> simp [plainPatterns, Spelling.pattern, separator]

theorem pattern_mem_offsetPatterns {spelling : Spelling} (hclock : spelling.clock ≠ .unwritten)
    (hseparator : spelling.isSpaced = false) : spelling.pattern ++ [.offset] ∈ offsetPatterns := by
  obtain ⟨date, isSpaced, clock, zone⟩ := spelling
  obtain rfl := hseparator
  cases clock with
  | unwritten => exact absurd rfl hclock
  | minutes hour minute => simp [offsetPatterns, Spelling.pattern, separator]
  | seconds hour minute second fraction => simp [offsetPatterns, Spelling.pattern, separator]

/-- What is written without an offset is read by a pattern without one, which gets to see no letter
for UTC. -/
theorem reading_of_zulu {spelling : Spelling} (hvalid : spelling.Valid)
    (hzulu : IsZulu spelling.zone.characters) (hahead : spelling.zone.ahead = 0) :
    spelling.pattern.instant? (dropZulu spelling.characters) = some spelling.instant := by
  obtain ⟨front, digit, hfront, hdigit⟩ := endsInDigit_plain hvalid.clock
  have hdropped : dropZulu spelling.characters = spelling.plainCharacters := by
    rw [Spelling.characters]
    apply dropZulu_append_of_digit hdigit _ hzulu
    rw [hfront, List.getLast?_concat]
  have hfields : { spelling.fields with offset := 0 } = spelling.fields := by
    rw [Spelling.fields, hahead]
  have hscan := scan?_plain hvalid isApart_nil
  rw [List.append_nil, hfields] at hscan
  rw [hdropped]
  exact instant?_eq_some_iff.mpr ⟨spelling.fields, hscan, instant?_fields hvalid⟩

theorem reading_of_offset {spelling : Spelling} (hvalid : spelling.Valid)
    {isBehind hasColon : Bool} {hours minutes : Nat} (hhours : hours ≤ 23) (hminutes : minutes ≤ 59)
    (hzone : spelling.zone = .offset isBehind hasColon hours minutes) :
    Pattern.instant? (spelling.pattern ++ [.offset]) spelling.characters
      = some spelling.instant := by
  have hapart : IsApart spelling.zone.characters := by
    rw [hzone]
    intro character hfirst
    obtain rfl := Option.mem_some.mp hfirst
    cases isBehind <;> decide
  have hoffset : Pattern.scan? [.offset] { spelling.fields with offset := 0 }
      spelling.zone.characters = some (spelling.fields, []) := by
    rw [hzone, scan?_offset isBehind hasColon hhours hminutes, ← hzone]
    rfl
  have hscan : Pattern.scan? (spelling.pattern ++ [.offset]) .blank spelling.characters
      = some (spelling.fields, []) :=
    scan?_append_eq_some_iff.mpr ⟨_, _, scan?_plain hvalid hapart, hoffset⟩
  exact instant?_eq_some_iff.mpr ⟨spelling.fields, hscan, instant?_fields hvalid⟩

theorem exists_reading {spelling : Spelling} (hvalid : spelling.Valid) :
    ∃ reading ∈ readings, reading spelling.characters = some spelling.instant := by
  have hplain : (fun text => spelling.pattern.instant? (dropZulu text)) ∈ readings := by
    have hmem := pattern_mem_plainPatterns spelling
    simp only [readings, dateReadings, List.mem_append, List.mem_map]
    exact Or.inl (Or.inr ⟨_, hmem, rfl⟩)
  have hzone := hvalid.zone
  unfold Spelling.ValidZone at hzone
  split at hzone
  · next hunwritten =>
    refine ⟨_, hplain, reading_of_zulu hvalid ?_ ?_⟩
    · rw [hunwritten]
      exact Or.inl rfl
    · rw [hunwritten]
      rfl
  · next isSmall hletter =>
    refine ⟨_, hplain, reading_of_zulu hvalid ?_ ?_⟩
    · rw [hletter]
      cases isSmall with
      | true => exact Or.inr (Or.inr rfl)
      | false => exact Or.inr (Or.inl rfl)
    · rw [hletter]
      rfl
  · next isBehind hasColon hours minutes hoffset =>
    obtain ⟨hhours, hminutes, hseparator, hclock⟩ := hzone
    refine ⟨_, ?_, reading_of_offset hvalid hhours hminutes hoffset⟩
    simp only [readings, dateReadings, List.mem_append, List.mem_cons, List.mem_map]
    exact Or.inl (Or.inl (Or.inr ⟨_, pattern_mem_offsetPatterns hclock hseparator, rfl⟩))

theorem isDay_iff_second {spelling : Spelling} (hvalid : spelling.Valid) {days : Int} :
    spelling.date.IsDay days
      ↔ spelling.instant.second
        = days * 86400 + spelling.clock.secondOfDay - spelling.zone.ahead := by
  rw [isDay_iff, and_iff_right hvalid.date]
  simp only [Spelling.instant]
  omega

/-- **Every spelling is read.** However a valid date and time is written, to the minute or to the
second, with or without a zone, it is read as the instant that it names: the days since 1970-01-01,
as one counts them, and the second of the day, less what the zone is ahead of UTC, and the
fraction. -/
theorem read_spelling {spelling : Spelling} (hvalid : spelling.Valid) :
    Instant.read (String.ofList spelling.characters) = .ok spelling.instant
      ∧ spelling.instant.nano = spelling.clock.nanos
      ∧ ∀ days, spelling.date.IsDay days
          ↔ spelling.instant.second
            = days * 86400 + spelling.clock.secondOfDay - spelling.zone.ahead := by
  obtain ⟨reading, hreading, haccepts⟩ := exists_reading hvalid
  refine ⟨?_, rfl, fun _ => isDay_iff_second hvalid⟩
  apply read_of_reading hreading
  rw [String.toList_ofList, trim_characters hvalid.clock]
  exact haccepts

/-- A clock that is ahead of UTC reads the first minutes of a year when UTC is in the year
before. -/
theorem read_spelling_of_new_year :
    let spelling : Spelling :=
      ⟨⟨0, 1, 1⟩, false, .seconds 0 15 0 ['2', '5'], .offset false true 0 30⟩
    Instant.read "0000-01-01T00:15:00.25+00:30" = .ok spelling.instant
      ∧ spelling.instant = ⟨-62167220100, 250000000⟩
      ∧ spelling.date.IsDay (-719528) := by
  intro spelling
  have hvalid : spelling.Valid :=
    ⟨by decide, by decide,
      ⟨by decide, by decide, by decide, by decide, List.all_eq_true.mp (by decide)⟩,
      ⟨by decide, by decide, rfl, nofun⟩⟩
  have htext : spelling.characters = "0000-01-01T00:15:00.25+00:30".toList := by decide
  obtain ⟨hread, -, hdays⟩ := read_spelling hvalid
  rw [htext, String.ofList_toList] at hread
  exact ⟨hread, by decide, (hdays _).mpr (by decide)⟩

end AddressBoard.Calendar

import AddressBoard.Proofs.Calendar.Scanning

/-!
# The readings agree

The ten readings of a timestamp are lenient, each in its own way, and a text can be accepted by
several of them. They are all cases of one loose reading that looks at the next character where they
differ: behind the date, and behind the minutes. So whichever of them accepts a text, it finds the
same instant, and their order does not matter.
-/

namespace AddressBoard.Calendar

/-! ## The loose reading -/

/-- Reads what can follow a time: nothing, a letter for UTC, or an offset. -/
def readZone? (fields : Fields) (text : List Char) : Option Fields :=
  if IsZulu text then some fields else Pattern.fields? [.offset] fields text

/-- Reads what can follow the minutes: seconds with their fraction, and a zone. -/
def readBehindMinutes? (fields : Fields) : List Char → Option Fields
  | ':' :: text => do
    let (fields, rest) ← Pattern.scan? [.second, .fraction] fields text
    readZone? fields rest
  | text => readZone? fields text

/-- Takes off a `T` of either size. -/
def dropSeparator : List Char → List Char
  | 'T' :: rest => rest
  | 't' :: rest => rest
  | text => text

/-- Reads what can follow a date: nothing or a letter for UTC, or else a time. -/
def readBehindDate? (fields : Fields) (text : List Char) : Option Fields :=
  if IsZulu text then some fields
  else do
    let (fields, rest) ← minutePattern.scan? fields (dropSeparator text)
    readBehindMinutes? fields rest

/-- The reading of which all readings as a date are cases. -/
def readLoosely? (text : List Char) : Option Fields := do
  let (fields, rest) ← datePattern.scan? .blank text
  readBehindDate? fields rest

/-! ## Behind the minutes -/

section Behind

variable {fields entered found : Fields} {text between rest : List Char}

theorem readZone?_of_offset (hoffset : Pattern.scan? [.offset] fields text = some (found, [])) :
    readZone? fields text = some found := by
  have hzulu : ¬ IsZulu text := by
    rintro (rfl | rfl | rfl) <;> cases hoffset
  rw [readZone?, if_neg hzulu]
  exact fields?_eq_some_iff.mpr hoffset

/-- No zone begins with a colon. -/
theorem readBehindMinutes?_of_zone (hzone : readZone? fields text = some found) :
    readBehindMinutes? fields text = some found := by
  unfold readBehindMinutes?
  split
  · next behind =>
    have hzulu : ¬ IsZulu (':' :: behind) := by
      rintro (heq | heq | heq) <;> cases heq
    rw [readZone?, if_neg hzulu] at hzone
    cases hzone
  · exact hzone

theorem readBehindMinutes?_of_second
    (hsecond : Pattern.scan? [.second, .fraction] fields text = some (entered, between))
    (hzone : readZone? entered between = some found) :
    readBehindMinutes? fields (':' :: text) = some found := by
  simp [readBehindMinutes?, hsecond, hzone]

/-- What the patterns end in after the minutes. -/
def behindMinutes : List Pattern :=
  [[], [.offset], [.literal ':', .second, .fraction], [.literal ':', .second, .fraction, .offset]]

theorem readBehindMinutes?_of_pattern {pattern : Pattern} (hpattern : pattern ∈ behindMinutes)
    (hscan : pattern.scan? fields text = some (found, rest)) (hrest : IsZulu rest)
    (hend : .offset ∈ pattern → rest = []) : readBehindMinutes? fields text = some found := by
  simp only [behindMinutes, List.mem_cons, List.not_mem_nil, or_false] at hpattern
  rcases hpattern with rfl | rfl | rfl | rfl
  · obtain ⟨rfl, rfl⟩ := Prod.mk.inj (Option.some.inj hscan)
    exact readBehindMinutes?_of_zone (if_pos hrest)
  · obtain rfl := hend (by simp)
    exact readBehindMinutes?_of_zone (readZone?_of_offset hscan)
  · obtain ⟨entered, between, hcolon, hsecond⟩ := scan?_cons_eq_some_iff.mp hscan
    obtain ⟨behind, hliteral, heq⟩ := Option.map_eq_some_iff.mp hcolon
    obtain ⟨rfl, rfl⟩ := Prod.mk.inj heq
    rw [literal?_eq_some_iff.mp hliteral]
    exact readBehindMinutes?_of_second hsecond (if_pos hrest)
  · obtain rfl := hend (by simp)
    obtain ⟨entered, between, hcolon, htime⟩ := scan?_cons_eq_some_iff.mp hscan
    obtain ⟨behind, hliteral, heq⟩ := Option.map_eq_some_iff.mp hcolon
    obtain ⟨rfl, rfl⟩ := Prod.mk.inj heq
    have hsplit : Pattern.scan? ([.second, .fraction] ++ [.offset]) fields behind
        = some (found, []) := htime
    obtain ⟨timed, atOffset, hsecond, hoffset⟩ := scan?_append_eq_some_iff.mp hsplit
    rw [literal?_eq_some_iff.mp hliteral]
    exact readBehindMinutes?_of_second hsecond (readZone?_of_offset hoffset)

/-! ## Behind the date -/

theorem scan?_minutePattern_eq_none_of_zulu (hzulu : IsZulu text) :
    minutePattern.scan? fields text = none := by
  rcases hzulu with rfl | rfl | rfl <;> rfl

theorem readBehindDate?_of_minutes
    (hminutes : minutePattern.scan? fields (dropSeparator text) = some (entered, between))
    (hbehind : readBehindMinutes? entered between = some found) :
    readBehindDate? fields text = some found := by
  have hzulu : ¬ IsZulu text := by
    intro hzulu
    have hkept : dropSeparator text = text := by
      rcases hzulu with rfl | rfl | rfl <;> rfl
    rw [hkept, scan?_minutePattern_eq_none_of_zulu hzulu] at hminutes
    cases hminutes
  rw [readBehindDate?, if_neg hzulu]
  simp [hminutes, hbehind]

theorem scan?_minutePattern_trimStart (fields : Fields) (text : List Char) :
    minutePattern.scan? fields (Text.trimStart text) = minutePattern.scan? fields text := by
  simp only [minutePattern, Pattern.scan?, Item.scan?, number?_trimStart]

/-- A time begins with a digit. -/
theorem dropSeparator_of_minutes
    (hminutes : minutePattern.scan? fields text = some (entered, between)) :
    dropSeparator text = text := by
  obtain ⟨timed, behind, hitem, -⟩ := scan?_cons_eq_some_iff.mp hminutes
  obtain ⟨hour, hhour, -⟩ := Option.map_eq_some_iff.mp hitem
  obtain ⟨digit, others, hdigit, htrim⟩ := trimStart_of_number hhour
  unfold dropSeparator
  split
  · next rest =>
    rw [trimStart_of_black (by simp [Text.isBlank, Text.blankRanges])] at htrim
    obtain ⟨rfl, -⟩ := List.cons.inj htrim
    cases hdigit
  · next rest =>
    rw [trimStart_of_black (by simp [Text.isBlank, Text.blankRanges])] at htrim
    obtain ⟨rfl, -⟩ := List.cons.inj htrim
    cases hdigit
  · rfl

theorem readBehindDate?_of_separator {separator : Item}
    (hseparator : separator = .literal 'T' ∨ separator = .space)
    (hminutes : Pattern.scan? (separator :: minutePattern) fields text = some (entered, between))
    (hbehind : readBehindMinutes? entered between = some found) :
    readBehindDate? fields text = some found := by
  obtain ⟨same, atMinutes, hitem, hscan⟩ := scan?_cons_eq_some_iff.mp hminutes
  rcases hseparator with rfl | rfl
  · obtain ⟨behind, hliteral, heq⟩ := Option.map_eq_some_iff.mp hitem
    obtain ⟨rfl, rfl⟩ := Prod.mk.inj heq
    rw [literal?_eq_some_iff.mp hliteral]
    exact readBehindDate?_of_minutes hscan hbehind
  · obtain ⟨rfl, rfl⟩ := Prod.mk.inj (Option.some.inj hitem)
    rw [scan?_minutePattern_trimStart] at hscan
    apply readBehindDate?_of_minutes _ hbehind
    rw [dropSeparator_of_minutes hscan]
    exact hscan

end Behind

/-! ## Patterns -/

section Patterns

variable {pattern : Pattern} {text : List Char} {found : Fields} {rest : List Char}

/-- Every pattern is a date with or without a time behind it. -/
def IsDated (pattern : Pattern) : Prop :=
  pattern = datePattern ∨ ∃ separator behind, (separator = .literal 'T' ∨ separator = .space)
    ∧ behind ∈ behindMinutes ∧ pattern = datePattern ++ (separator :: minutePattern ++ behind)

theorem readLoosely?_of_pattern (hdated : IsDated pattern)
    (hscan : pattern.scan? .blank text = some (found, rest)) (hrest : IsZulu rest)
    (hend : .offset ∈ pattern → rest = []) : readLoosely? text = some found := by
  have hloosely : ∀ {dated behind}, datePattern.scan? .blank text = some (dated, behind) →
      readBehindDate? dated behind = some found → readLoosely? text = some found := by
    intro dated behind hdate hbehind
    simp [readLoosely?, hdate, hbehind]
  rcases hdated with rfl | ⟨separator, behind, hseparator, hbehind, rfl⟩
  · exact hloosely hscan (if_pos hrest)
  · obtain ⟨dated, atSeparator, hdate, htime⟩ := scan?_append_eq_some_iff.mp hscan
    obtain ⟨timed, atBehind, hminutes, hlast⟩ := scan?_append_eq_some_iff.mp htime
    apply hloosely hdate
    apply readBehindDate?_of_separator hseparator hminutes
    apply readBehindMinutes?_of_pattern hbehind hlast hrest
    intro hmem
    apply hend
    simp [hmem]

end Patterns

/-! ## The strict form -/

section Strict

variable {text rest : List Char} {found : Fields}

/-- An offset of the strict form can be read by a pattern too. -/
theorem scan?_offset_of_strict {offset : Int}
    (hread : offset? (literal? ':') text = some (offset, rest)) (fields : Fields) :
    Pattern.scan? [.offset] fields text = some ({ fields with offset }, rest) := by
  obtain ⟨sign, hours, minutes, behindSign, behindHours, atMinutes, hsign, hhours, hcolon,
    hminutes, hmost, hoffset⟩ := offset?_eq_some_iff.mp hread
  have htrim : Text.trimStart text = text := by
    obtain ⟨character, rfl, ⟨rfl, -⟩ | ⟨rfl | rfl, -⟩⟩ := sign?_eq_some_iff.mp hsign <;> rfl
  have hskip : skipColons behindHours = atMinutes := by
    obtain ⟨digit, others, hdigit, rfl⟩ := eq_cons_of_fixedNumber (by decide) hminutes
    rw [literal?_eq_some_iff.mp hcolon]
    exact skipColons_of_digit hdigit others
  have hread' : offset? (fun rest => some (skipColons rest)) (Text.trimStart text)
      = some (offset, rest) := by
    rw [htrim]
    exact offset?_eq_some_iff.mpr ⟨sign, hours, minutes, behindSign, behindHours, atMinutes, hsign,
      hhours, congrArg some hskip, hminutes, hmost, hoffset⟩
  refine scan?_cons_eq_some_iff.mpr ⟨{ fields with offset }, rest, ?_, rfl⟩
  exact Option.map_eq_some_iff.mpr ⟨(offset, rest), hread', rfl⟩

theorem readZone?_of_strict {offset : Int} (hread : strictOffset? text = some (offset, []))
    {fields : Fields} (hfields : fields.offset = 0) :
    readZone? fields text = some { fields with offset } := by
  unfold strictOffset? at hread
  split at hread
  · obtain ⟨rfl, rfl⟩ := Prod.mk.inj (Option.some.inj hread)
    rw [readZone?, if_pos (by decide), ← hfields]
  · obtain ⟨rfl, rfl⟩ := Prod.mk.inj (Option.some.inj hread)
    rw [readZone?, if_pos (by decide), ← hfields]
  · exact readZone?_of_offset (scan?_offset_of_strict hread fields)

/-- What the strict form makes of the time and the offset behind a date. -/
def strictTime? (date : Date) (text : List Char) : Option Fields := do
  let (hour, rest) ← fixedNumber? 2 text
  let rest ← literal? ':' rest
  let (minute, rest) ← fixedNumber? 2 rest
  let rest ← literal? ':' rest
  let (second, rest) ← fixedNumber? 2 rest
  let (nano, rest) ← fraction? rest
  let (offset, rest) ← strictOffset? rest
  if rest = [] then some { date, hour, minute, second, nano, offset } else none

theorem strictTime?_of_strict (hstrict : strictFields? text = some found) :
    ∃ date separator atHour,
      datePattern.scan? .blank text
          = some ({ Fields.blank with date }, separator :: atHour)
        ∧ (separator = 'T' ∨ separator = 't' ∨ separator = ' ')
        ∧ strictTime? date atHour = some found := by
  obtain ⟨⟨year, behindYear⟩, hyear, hmonths⟩ := Option.bind_eq_some_iff.mp hstrict
  obtain ⟨atMonth, hdash, hmonths⟩ := Option.bind_eq_some_iff.mp hmonths
  obtain ⟨⟨month, behindMonth⟩, hmonth, hdays⟩ := Option.bind_eq_some_iff.mp hmonths
  obtain ⟨atDay, hdash', hdays⟩ := Option.bind_eq_some_iff.mp hdays
  obtain ⟨⟨day, behindDay⟩, hday, htime⟩ := Option.bind_eq_some_iff.mp hdays
  have hdate : datePattern.scan? .blank text
      = some ({ Fields.blank with date := ⟨year, month, day⟩ }, behindDay) := by
    simp [datePattern, Pattern.scan?, Item.scan?, year?_of_fixedNumber hyear, hdash, hdash',
      number?_of_fixedNumber (by decide) hmonth, number?_of_fixedNumber (by decide) hday]
  simp only at htime
  split at htime
  · exact ⟨_, _, _, hdate, Or.inl rfl, htime⟩
  · exact ⟨_, _, _, hdate, Or.inr (Or.inl rfl), htime⟩
  · exact ⟨_, _, _, hdate, Or.inr (Or.inr rfl), htime⟩
  · cases htime

theorem minutes_of_separator {separator : Char}
    (hseparator : separator = 'T' ∨ separator = 't' ∨ separator = ' ') (fields : Fields)
    (text : List Char) :
    minutePattern.scan? fields (dropSeparator (separator :: text))
      = minutePattern.scan? fields text := by
  rcases hseparator with rfl | rfl | rfl
  · rfl
  · rfl
  · exact ((scan?_minutePattern_trimStart fields (' ' :: text)).symm.trans
      (scan?_minutePattern_trimStart fields text))

theorem readBehindDate?_of_strictTime {date : Date} {fields : Fields} {separator : Char}
    (hseparator : separator = 'T' ∨ separator = 't' ∨ separator = ' ')
    (hfields : fields = { Fields.blank with date })
    (htime : strictTime? date text = some found) :
    readBehindDate? fields (separator :: text) = some found := by
  simp only [strictTime?, Option.bind_eq_bind, Option.bind_eq_some_iff, Prod.exists,
    Option.ite_none_right_eq_some, Option.some.injEq] at htime
  obtain ⟨hour, behindHour, hhour, atMinute, hcolon, minute, behindMinute, hminute, atSecond,
    hcolon', second, behindSecond, hsecond, nano, atZone, hnano, offset, _, hoffset, rfl, rfl⟩ :=
    htime
  have hminutes : minutePattern.scan? fields text
      = some ({ fields with hour, minute }, behindMinute) := by
    simp [minutePattern, Pattern.scan?, Item.scan?, number?_of_fixedNumber (by decide) hhour,
      hcolon, number?_of_fixedNumber (by decide) hminute]
  have hseconds : Pattern.scan? [.second, .fraction] { fields with hour, minute } atSecond
      = some ({ fields with hour, minute, second, nano }, atZone) := by
    simp [Pattern.scan?, Item.scan?, number?_of_fixedNumber (by decide) hsecond, hnano]
  have hzone : readZone? { fields with hour, minute, second, nano } atZone
      = some { fields with hour, minute, second, nano, offset } :=
    readZone?_of_strict hoffset (by rw [hfields]; rfl)
  rw [← minutes_of_separator hseparator] at hminutes
  apply readBehindDate?_of_minutes hminutes
  rw [literal?_eq_some_iff.mp hcolon', readBehindMinutes?_of_second hseconds hzone, hfields]

theorem readLoosely?_of_strict (hstrict : strictFields? text = some found) :
    readLoosely? text = some found := by
  obtain ⟨date, separator, atHour, hdate, hseparator, htime⟩ := strictTime?_of_strict hstrict
  simp [readLoosely?, hdate, readBehindDate?_of_strictTime hseparator rfl htime]

end Strict

/-! ## Milliseconds -/

theorem eq_append_of_digits {text digits rest : List Char}
    (hread : digits? text = some (digits, rest)) : text = digits ++ rest := by
  obtain ⟨-, rfl, rfl⟩ := digits?_eq_some_iff.mp hread
  exact List.takeWhile_append_dropWhile.symm

/-- A year takes at least the first character. -/
theorem eq_cons_of_year {text rest : List Char} {year : Int} (htrim : Text.trimStart text = text)
    (hread : year? text = some (year, rest)) :
    ∃ first taken, text = first :: (taken ++ rest) := by
  rcases year?_eq_some_iff.mp hread with ⟨number, hnumber, -⟩ | ⟨behind, digits, hsign, hdigits, -⟩
    | ⟨behind, digits, hsign, hdigits, -⟩
  · obtain ⟨digits, hsome, htaken, -⟩ := number?_eq_some_iff.mp hnumber
    rw [htrim] at htaken
    obtain ⟨digit, others, rfl⟩ := List.exists_cons_of_ne_nil hsome
    exact ⟨digit, others, (eq_append_of_takeDigits htaken).1⟩
  · rw [htrim] at hsign
    exact ⟨'-', digits, by rw [hsign, eq_append_of_digits hdigits]⟩
  · rw [htrim] at hsign
    exact ⟨'+', digits, by rw [hsign, eq_append_of_digits hdigits]⟩

theorem eq_cons_of_signed {text : List Char} {number : Int}
    (hsigned : Numeral.IsSigned text number) :
    ∃ first others, text = first :: others ∧ Text.isBlank first = false
      ∧ ∀ character ∈ others, character.isDigit = true := by
  cases hsigned with
  | bare hdigits =>
    obtain ⟨hsome, hdigits, -⟩ := hdigits
    obtain ⟨first, others, rfl⟩ := List.exists_cons_of_ne_nil hsome
    refine ⟨first, others, rfl, Text.isBlank_of_isDigit (hdigits first List.mem_cons_self), ?_⟩
    exact fun character hmem => hdigits character (List.mem_cons_of_mem first hmem)
  | plus hdigits => exact ⟨'+', _, rfl, by decide, hdigits.2.1⟩
  | minus hdigits => exact ⟨'-', _, rfl, by decide, hdigits.2.1⟩

/-- A date has a hyphen behind its year, and a number has none behind its first character. -/
theorem readLoosely?_of_signed {text : List Char} {number : Int}
    (hsigned : Numeral.IsSigned text number) : readLoosely? text = none := by
  obtain ⟨first, others, rfl, hblack, hdigits⟩ := eq_cons_of_signed hsigned
  have htrim : Text.trimStart (first :: others) = first :: others :=
    List.dropWhile_cons_of_neg (ne_true_of_eq_false hblack)
  have hdate : datePattern.scan? .blank (first :: others) = none := by
    rw [Option.eq_none_iff_forall_ne_some]
    rintro ⟨found, rest⟩ hscan
    obtain ⟨entered, between, hitem, hbehind⟩ := scan?_cons_eq_some_iff.mp hscan
    obtain ⟨dashed, behind, hdash, -⟩ := scan?_cons_eq_some_iff.mp hbehind
    obtain ⟨⟨year, _⟩, hyear, heq⟩ := Option.map_eq_some_iff.mp hitem
    obtain ⟨-, rfl⟩ := Prod.mk.inj heq
    obtain ⟨_, hliteral, -⟩ := Option.map_eq_some_iff.mp hdash
    obtain ⟨_, taken, heq⟩ := eq_cons_of_year htrim hyear
    have hmem : '-' ∈ others := by
      rw [(List.cons.inj heq).2, literal?_eq_some_iff.mp hliteral]
      simp
    cases hdigits '-' hmem
  rw [readLoosely?, hdate]
  rfl

/-! ## All readings -/

/-- The instant that a text names, whichever reading accepts it. -/
def loosely? (text : List Char) : Option Instant :=
  ((readLoosely? text).bind Fields.instant?).or (millisReading text)

/-- Both items for an offset read the same, so the pattern without seconds stands for two. -/
theorem isDated_of_offsetPattern {pattern : Pattern} (hpattern : pattern ∈ offsetPatterns) :
    ∃ dated, IsDated dated
      ∧ ∀ fields text, pattern.scan? fields text = dated.scan? fields text := by
  have hminutes : IsDated (datePattern ++ (.literal 'T' :: minutePattern ++ [.offset])) :=
    Or.inr ⟨.literal 'T', [.offset], Or.inl rfl, by simp [behindMinutes], rfl⟩
  simp only [offsetPatterns, List.mem_cons, List.not_mem_nil, or_false] at hpattern
  rcases hpattern with rfl | rfl | rfl
  · exact ⟨_, Or.inr ⟨.literal 'T', _, Or.inl rfl, by simp [behindMinutes], rfl⟩,
      fun fields text => rfl⟩
  · exact ⟨_, hminutes, fun fields text => rfl⟩
  · exact ⟨_, hminutes, fun fields text => rfl⟩

theorem isDated_of_plainPattern {pattern : Pattern} (hpattern : pattern ∈ plainPatterns) :
    IsDated pattern ∧ .offset ∉ pattern := by
  simp only [plainPatterns, List.mem_cons, List.not_mem_nil, or_false] at hpattern
  rcases hpattern with rfl | rfl | rfl | rfl | rfl
  · exact ⟨Or.inr ⟨.literal 'T', _, Or.inl rfl, by simp [behindMinutes], rfl⟩, by decide⟩
  · exact ⟨Or.inr ⟨.space, _, Or.inr rfl, by simp [behindMinutes], rfl⟩, by decide⟩
  · exact ⟨Or.inr ⟨.literal 'T', [], Or.inl rfl, by simp [behindMinutes], rfl⟩, by decide⟩
  · exact ⟨Or.inr ⟨.space, [], Or.inr rfl, by simp [behindMinutes], rfl⟩, by decide⟩
  · exact ⟨Or.inl rfl, by decide⟩

/-- What a reading as a date accepts, the loose reading reads to the same instant. -/
theorem readLoosely?_of_dateReading {reading : List Char → Option Instant}
    (hreading : reading ∈ dateReadings) {text : List Char} {instant : Instant}
    (haccepts : reading text = some instant) :
    ∃ found, readLoosely? text = some found ∧ found.instant? = some instant := by
  simp only [dateReadings, List.mem_append, List.mem_cons, List.mem_map] at hreading
  rcases hreading with (rfl | ⟨pattern, hpattern, rfl⟩) | ⟨pattern, hpattern, rfl⟩
  · obtain ⟨found, hstrict, hinstant⟩ := Option.bind_eq_some_iff.mp haccepts
    exact ⟨found, readLoosely?_of_strict hstrict, hinstant⟩
  · obtain ⟨found, hscan, hinstant⟩ := instant?_eq_some_iff.mp haccepts
    obtain ⟨dated, hdated, hsame⟩ := isDated_of_offsetPattern hpattern
    rw [hsame] at hscan
    exact ⟨found, readLoosely?_of_pattern hdated hscan (Or.inl rfl) fun _ => rfl, hinstant⟩
  · obtain ⟨found, hscan, hinstant⟩ := instant?_eq_some_iff.mp haccepts
    obtain ⟨hdated, hplain⟩ := isDated_of_plainPattern hpattern
    obtain ⟨ending, hending, htext⟩ := eq_dropZulu_append text
    have hwhole := ignoresZulu_pattern pattern .blank hending hscan
    rw [← htext] at hwhole
    exact ⟨found,
      readLoosely?_of_pattern hdated hwhole hending fun hmem => absurd hmem hplain, hinstant⟩

/-- No numeral is a date, however long it is and whatever its sign. -/
theorem dateReading_of_signed {text : List Char} {number : Int}
    (hsigned : Numeral.IsSigned text number) {reading : List Char → Option Instant}
    (hreading : reading ∈ dateReadings) : reading text = none := by
  rw [Option.eq_none_iff_forall_ne_some]
  intro instant haccepts
  obtain ⟨found, hread, -⟩ := readLoosely?_of_dateReading hreading haccepts
  rw [readLoosely?_of_signed hsigned] at hread
  cases hread

/-- Every reading that accepts a text finds the one instant that the text names. -/
theorem loosely?_of_reading {reading : List Char → Option Instant} (hreading : reading ∈ readings)
    {text : List Char} {instant : Instant} (haccepts : reading text = some instant) :
    loosely? text = some instant := by
  rw [readings, List.mem_append, List.mem_singleton] at hreading
  rcases hreading with hdate | rfl
  · obtain ⟨found, hread, hinstant⟩ := readLoosely?_of_dateReading hdate haccepts
    simp [loosely?, hread, hinstant]
  · obtain ⟨number, hread, -⟩ := Option.bind_eq_some_iff.mp haccepts
    rw [loosely?, readLoosely?_of_signed (Numeral.readSigned?_eq_some_iff.mp hread).1]
    exact haccepts

theorem toOption_read (text : String) :
    (Instant.read text).toOption
      = readings.findSome? fun reading => reading (Text.trim text.toList) := by
  unfold Instant.read
  simp only [readings, List.findSome?_append, List.findSome?_cons, List.findSome?_nil]
  cases dateReadings.findSome? fun reading => reading (Text.trim text.toList) with
  | some instant => rfl
  | none =>
    rw [millisReading]
    cases Numeral.readSigned? (Text.trim text.toList) with
    | none => rfl
    | some millis =>
      simp only [Instant.ofMillis, Option.bind_eq_bind, Option.bind_some, Option.none_or]
      cases Instant.ofMillis? millis <;> rfl

/-- Any reading that accepts a text speaks for all of them. -/
theorem findSome?_of_reading {order : List (List Char → Option Instant)}
    (horder : ∀ reading ∈ order, reading ∈ readings) {reading : List Char → Option Instant}
    (hreading : reading ∈ order) {text : List Char} {instant : Instant}
    (haccepts : reading text = some instant) :
    order.findSome? (fun reading => reading text) = some instant := by
  cases hfirst : order.findSome? fun reading => reading text with
  | none =>
    have hrefused := List.findSome?_eq_none_iff.mp hfirst reading hreading
    rw [haccepts] at hrefused
    cases hrefused
  | some other =>
    obtain ⟨earlier, hearlier, hother⟩ := List.exists_of_findSome?_eq_some hfirst
    have hnamed := loosely?_of_reading (horder earlier hearlier) hother
    rw [loosely?_of_reading (horder reading hreading) haccepts] at hnamed
    exact hnamed.symm

theorem read_of_reading {reading : List Char → Option Instant} (hreading : reading ∈ readings)
    {text : String} {instant : Instant}
    (haccepts : reading (Text.trim text.toList) = some instant) :
    Instant.read text = .ok instant := by
  have hfound := toOption_read text
  rw [findSome?_of_reading (fun _ hmem => hmem) hreading haccepts] at hfound
  cases hread : Instant.read text with
  | ok other =>
    rw [hread] at hfound
    exact congrArg Except.ok (Option.some.inj hfound)
  | error invalid =>
    rw [hread] at hfound
    cases hfound

/-- **The readings agree.** All of the ten readings that accept a text find the same instant, in
whatever order they are tried; and a text is refused exactly if none of them accepts it. -/
theorem readings_agree (text : String) :
    let trimmed := Text.trim text.toList
    (∀ first ∈ readings, ∀ second ∈ readings, ∀ instant other,
        first trimmed = some instant → second trimmed = some other → instant = other)
      ∧ (∀ order : List (List Char → Option Instant), order.Perm readings → ∀ instant,
          Instant.read text = .ok instant
            ↔ order.findSome? (fun reading => reading trimmed) = some instant)
      ∧ ((∃ invalid, Instant.read text = .error invalid)
          ↔ ∀ reading ∈ readings, reading trimmed = none) := by
  intro trimmed
  have hread : ∀ instant, Instant.read text = .ok instant
      ↔ readings.findSome? (fun reading => reading trimmed) = some instant := by
    intro instant
    rw [← toOption_read]
    cases Instant.read text with
    | ok other => simp [Except.toOption]
    | error invalid => simp [Except.toOption]
  refine ⟨?_, ?_, ?_⟩
  · intro first hfirst second hsecond instant other hinstant hother
    have hnamed := loosely?_of_reading hfirst hinstant
    rw [loosely?_of_reading hsecond hother] at hnamed
    exact (Option.some.inj hnamed).symm
  · intro order horder instant
    rw [hread]
    constructor
    · intro hfound
      obtain ⟨reading, hreading, haccepts⟩ := List.exists_of_findSome?_eq_some hfound
      exact findSome?_of_reading (fun _ hmem => horder.mem_iff.mp hmem)
        (horder.mem_iff.mpr hreading) haccepts
    · intro hfound
      obtain ⟨reading, hreading, haccepts⟩ := List.exists_of_findSome?_eq_some hfound
      exact findSome?_of_reading (fun _ hmem => hmem) (horder.mem_iff.mp hreading) haccepts
  · rw [← List.findSome?_eq_none_iff, ← toOption_read]
    cases Instant.read text with
    | ok instant => simp [Except.toOption]
    | error invalid => simp [Except.toOption]

end AddressBoard.Calendar

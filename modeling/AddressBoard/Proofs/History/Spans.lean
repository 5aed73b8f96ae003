import AddressBoard.History.Span
import AddressBoard.Text.Numeral
import Mathlib.Tactic.SplitIfs

/-!
# What the words of a span say

The words of a span are read back as counts of units. What they amount to is the span rounded down
to the last unit that its size has room for, so a longer span never reads as a shorter one. The
counts stay below the next larger unit, with one exception: a year is five days longer than twelve
months, and in these days the words say twelve months.
-/

namespace AddressBoard.History

/-! ## Reading spans -/

/-- A count with the noun behind it, as both stand in a text. -/
structure Phrase where
  count : Nat
  unit : SpanUnit
  isPlural : Bool
deriving DecidableEq, Repr

namespace Phrase

/-- The unit that a noun names, and whether the noun is a plural. -/
def noun? : String → Option (SpanUnit × Bool)
  | "second" => some (.second, false)
  | "seconds" => some (.second, true)
  | "minute" => some (.minute, false)
  | "minutes" => some (.minute, true)
  | "hour" => some (.hour, false)
  | "hours" => some (.hour, true)
  | "day" => some (.day, false)
  | "days" => some (.day, true)
  | "week" => some (.week, false)
  | "weeks" => some (.week, true)
  | "month" => some (.month, false)
  | "months" => some (.month, true)
  | "year" => some (.year, false)
  | "years" => some (.year, true)
  | _ => none

def ofWords? : List (List Char) → Option (List Phrase)
  | [] => some []
  | [_] => none
  | count :: noun :: words => do
    let count ← Numeral.read? count
    let (unit, isPlural) ← noun? (String.ofList noun)
    let phrases ← ofWords? words
    return ⟨count, unit, isPlural⟩ :: phrases

/-- The phrases of a text whose words stand between single spaces. -/
def readAll? (text : String) : Option (List Phrase) := ofWords? (text.toList.splitOn ' ')

end Phrase

namespace Amount

def noun (amount : Amount) : List Char :=
  amount.unit.name.toList ++ if amount.count = 1 then [] else ['s']

def words (amount : Amount) : List (List Char) := [Nat.toDigits 10 amount.count, amount.noun]

def phrase (amount : Amount) : Phrase := ⟨amount.count, amount.unit, amount.count != 1⟩

theorem noun?_noun (amount : Amount) :
    Phrase.noun? (String.ofList amount.noun) = some (amount.unit, amount.count != 1) := by
  obtain ⟨count, unit⟩ := amount
  unfold noun
  by_cases hone : count = 1
  · simp only [hone, if_true]
    cases unit <;> rfl
  · have hmany : (count != 1) = true := bne_iff_ne.mpr hone
    simp only [hone, hmany, if_false]
    cases unit <;> rfl

theorem toList_text (amount : Amount) :
    amount.text.toList = Nat.toDigits 10 amount.count ++ [' '] ++ amount.noun := by
  unfold text noun
  split <;> simp

theorem notMem_words (amount : Amount) : ∀ word ∈ amount.words, ' ' ∉ word := by
  have hcount : ' ' ∉ Nat.toDigits 10 amount.count := by
    intro hmem
    have hdigit := Nat.isDigit_of_mem_toDigits (by decide) (by decide) hmem
    exact absurd hdigit (by decide)
  have hnoun : ' ' ∉ amount.noun := by
    unfold noun
    cases amount.unit <;> split <;> decide
  simp [words, hcount, hnoun]

theorem toList_intercalate_text (amounts : List Amount) :
    (" ".intercalate (amounts.map text)).toList = [' '].intercalate (amounts.flatMap words) := by
  rw [String.toList_intercalate, List.map_map]
  induction amounts with
  | nil => rfl
  | cons amount others ih =>
    cases others with
    | nil => simp [toList_text, words, List.intercalate_cons_cons]
    | cons other others =>
      have hrest : (other :: others).flatMap words
          = Nat.toDigits 10 other.count :: other.noun :: others.flatMap words := rfl
      rw [hrest] at ih
      have hall : (amount :: other :: others).flatMap words
          = Nat.toDigits 10 amount.count :: amount.noun :: Nat.toDigits 10 other.count
            :: other.noun :: others.flatMap words := rfl
      have hspace : " ".toList = [' '] := rfl
      simp only [List.map_cons, Function.comp_apply] at ih ⊢
      rw [hall, List.intercalate_cons_cons, ih, toList_text, hspace]
      simp only [List.intercalate_cons_cons, List.append_assoc]

theorem ofWords?_words (amounts : List Amount) :
    Phrase.ofWords? (amounts.flatMap words) = some (amounts.map phrase) := by
  induction amounts with
  | nil => rfl
  | cons amount others ih =>
    have hwords : (amount :: others).flatMap words
        = Nat.toDigits 10 amount.count :: amount.noun :: others.flatMap words := rfl
    rw [hwords, Phrase.ofWords?, Numeral.read?_toDigits, amount.noun?_noun, ih]
    rfl

end Amount

theorem readAll?_spanText (millis : Int) :
    Phrase.readAll? (spanText millis)
      = some ((amounts (spanSeconds millis)).map Amount.phrase) := by
  have hwords : ∀ word ∈ (amounts (spanSeconds millis)).flatMap Amount.words, ' ' ∉ word := by
    intro word hmem
    obtain ⟨amount, -, hword⟩ := List.mem_flatMap.mp hmem
    exact amount.notMem_words word hword
  rw [Phrase.readAll?, spanText, Amount.toList_intercalate_text,
    List.splitOn_intercalate ' ' hwords (List.cons_ne_nil _ _), Amount.ofWords?_words]

/-! ## The leading unit -/

namespace SpanUnit

/-- The unit leads a number of seconds: it is the largest that they fill, or they fill none. -/
structure Leads (unit : SpanUnit) (seconds : Nat) : Prop where
  fills : unit = .second ∨ unit.seconds ≤ seconds
  largest : ∀ other : SpanUnit, other.seconds ≤ seconds → other.seconds ≤ unit.seconds

theorem seconds_pos (unit : SpanUnit) : 0 < unit.seconds := by
  cases unit <;> decide

theorem eq_second_or_mem_descending (unit : SpanUnit) : unit = .second ∨ unit ∈ descending := by
  cases unit <;> decide

theorem pairwise_descending :
    descending.Pairwise fun larger smaller => smaller.seconds ≤ larger.seconds := by
  decide

theorem leads_leading (seconds : Nat) : (leading seconds).Leads seconds := by
  unfold leading
  cases hfound : descending.find? fun unit => unit.seconds ≤ seconds with
  | none =>
    refine ⟨Or.inl rfl, fun other hother => ?_⟩
    rcases other.eq_second_or_mem_descending with rfl | hmem
    · exact Nat.le_refl _
    · have hlarger := List.find?_eq_none.mp hfound other hmem
      simp only [decide_eq_true_eq] at hlarger
      exact absurd hother hlarger
  | some unit =>
    obtain ⟨hfills, larger, smaller, hparted, hlarger⟩ :=
      List.find?_eq_some_iff_append.mp hfound
    simp only [decide_eq_true_eq, Bool.not_eq_true', decide_eq_false_iff_not] at hfills hlarger
    refine ⟨Or.inr hfills, fun other hother => ?_⟩
    rcases other.eq_second_or_mem_descending with rfl | hmem
    · exact unit.seconds_pos
    · have hsorted := pairwise_descending
      rw [hparted] at hmem hsorted
      rcases List.mem_append.mp hmem with hmem | hmem
      · exact absurd hother (hlarger other hmem)
      · rcases List.mem_cons.mp hmem with rfl | hmem
        · exact Nat.le_refl _
        · exact (List.pairwise_cons.mp (List.pairwise_append.mp hsorted).2.1).1 other hmem

theorem Leads.lt {unit other : SpanUnit} {seconds : Nat} (hleads : unit.Leads seconds)
    (hsmaller : unit.seconds < other.seconds) : seconds < other.seconds := by
  have hlargest := hleads.largest other
  omega

/-- The numbers of seconds that a unit leads. -/
def Window (seconds : Nat) : SpanUnit → Prop
  | .second => seconds < 60
  | .minute => 60 ≤ seconds ∧ seconds < 3600
  | .hour => 3600 ≤ seconds ∧ seconds < 86400
  | .day => 86400 ≤ seconds ∧ seconds < 7 * 86400
  | .week => 7 * 86400 ≤ seconds ∧ seconds < 30 * 86400
  | .month => 30 * 86400 ≤ seconds ∧ seconds < 365 * 86400
  | .year => 365 * 86400 ≤ seconds

theorem Leads.window {unit : SpanUnit} {seconds : Nat} (hleads : unit.Leads seconds) :
    unit.Window seconds := by
  have hfills : unit ≠ .second → unit.seconds ≤ seconds := hleads.fills.resolve_left
  cases unit with
  | second => exact hleads.lt (by decide : SpanUnit.second.seconds < SpanUnit.minute.seconds)
  | minute =>
    exact ⟨hfills (by decide),
      hleads.lt (by decide : SpanUnit.minute.seconds < SpanUnit.hour.seconds)⟩
  | hour =>
    exact ⟨hfills (by decide),
      hleads.lt (by decide : SpanUnit.hour.seconds < SpanUnit.day.seconds)⟩
  | day =>
    exact ⟨hfills (by decide),
      hleads.lt (by decide : SpanUnit.day.seconds < SpanUnit.week.seconds)⟩
  | week =>
    exact ⟨hfills (by decide),
      hleads.lt (by decide : SpanUnit.week.seconds < SpanUnit.month.seconds)⟩
  | month =>
    exact ⟨hfills (by decide),
      hleads.lt (by decide : SpanUnit.month.seconds < SpanUnit.year.seconds)⟩
  | year => exact hfills (by decide)

/-- The unit of the last amount that there can be. -/
def last (unit : SpanUnit) : SpanUnit := unit.companion?.getD unit

end SpanUnit

/-! ## What the amounts come to -/

section Amounts

open SpanUnit (leading)

/-- An amount and the rest beside it, unless there is none. -/
def Amount.withRest (amount rest : Amount) : List Amount :=
  amount :: if rest.count = 0 then [] else [rest]

theorem amounts_of_companion {seconds : Nat} {companion : SpanUnit}
    (hcompanion : (leading seconds).companion? = some companion) :
    amounts seconds
      = Amount.withRest ⟨seconds / (leading seconds).seconds, leading seconds⟩
          ⟨seconds % (leading seconds).seconds / companion.seconds, companion⟩ := by
  simp only [amounts, Amount.withRest, hcompanion, List.filter_cons, List.filter_nil,
    decide_eq_true_eq, Nat.pos_iff_ne_zero, ite_not]

theorem amounts_of_none {seconds : Nat} (hnone : (leading seconds).companion? = none) :
    amounts seconds = [⟨seconds / (leading seconds).seconds, leading seconds⟩] := by
  simp only [amounts, hnone, List.filter_nil]

/-- The amounts by the size of the span, each count by a division of its own. -/
theorem amounts_eq (seconds : Nat) :
    let days := seconds / 86400
    amounts seconds =
      if 365 * 86400 ≤ seconds then
        Amount.withRest ⟨seconds / (365 * 86400), .year⟩ ⟨days % 365 / 30, .month⟩
      else if 30 * 86400 ≤ seconds then
        Amount.withRest ⟨seconds / (30 * 86400), .month⟩ ⟨days % 30, .day⟩
      else if 7 * 86400 ≤ seconds then
        Amount.withRest ⟨seconds / (7 * 86400), .week⟩ ⟨days % 7, .day⟩
      else if 86400 ≤ seconds then
        Amount.withRest ⟨days, .day⟩ ⟨seconds / 3600 % 24, .hour⟩
      else if 3600 ≤ seconds then
        Amount.withRest ⟨seconds / 3600, .hour⟩ ⟨seconds / 60 % 60, .minute⟩
      else if 60 ≤ seconds then [⟨seconds / 60, .minute⟩]
      else [⟨seconds, .second⟩] := by
  intro days
  have hwindow := (SpanUnit.leads_leading seconds).window
  cases hunit : leading seconds with
  | year =>
    have hcompanion : (leading seconds).companion? = some .month := congrArg _ hunit
    have hmonths : seconds % (365 * 86400) / (30 * 86400) = days % 365 / 30 := by omega
    rw [hunit, SpanUnit.Window] at hwindow
    rw [amounts_of_companion hcompanion, hunit, if_pos hwindow, ← hmonths]
    rfl
  | month =>
    have hcompanion : (leading seconds).companion? = some .day := congrArg _ hunit
    have hdays : seconds % (30 * 86400) / 86400 = days % 30 := by omega
    rw [hunit, SpanUnit.Window] at hwindow
    rw [amounts_of_companion hcompanion, hunit, if_neg (by omega), if_pos (by omega), ← hdays]
    rfl
  | week =>
    have hcompanion : (leading seconds).companion? = some .day := congrArg _ hunit
    have hdays : seconds % (7 * 86400) / 86400 = days % 7 := by omega
    rw [hunit, SpanUnit.Window] at hwindow
    rw [amounts_of_companion hcompanion, hunit, if_neg (by omega), if_neg (by omega),
      if_pos (by omega), ← hdays]
    rfl
  | day =>
    have hcompanion : (leading seconds).companion? = some .hour := congrArg _ hunit
    have hhours : seconds % 86400 / 3600 = seconds / 3600 % 24 := by omega
    rw [hunit, SpanUnit.Window] at hwindow
    rw [amounts_of_companion hcompanion, hunit, if_neg (by omega), if_neg (by omega),
      if_neg (by omega), if_pos (by omega), ← hhours]
    rfl
  | hour =>
    have hcompanion : (leading seconds).companion? = some .minute := congrArg _ hunit
    have hminutes : seconds % 3600 / 60 = seconds / 60 % 60 := by omega
    rw [hunit, SpanUnit.Window] at hwindow
    rw [amounts_of_companion hcompanion, hunit, if_neg (by omega), if_neg (by omega),
      if_neg (by omega), if_neg (by omega), if_pos (by omega), ← hminutes]
    rfl
  | minute =>
    have hnone : (leading seconds).companion? = none := congrArg _ hunit
    rw [hunit, SpanUnit.Window] at hwindow
    rw [amounts_of_none hnone, hunit, if_neg (by omega), if_neg (by omega), if_neg (by omega),
      if_neg (by omega), if_neg (by omega), if_pos (by omega)]
    rfl
  | second =>
    have hnone : (leading seconds).companion? = none := congrArg _ hunit
    rw [hunit, SpanUnit.Window] at hwindow
    rw [amounts_of_none hnone, hunit, if_neg (by omega), if_neg (by omega), if_neg (by omega),
      if_neg (by omega), if_neg (by omega), if_neg (by omega), SpanUnit.seconds, Nat.div_one]

end Amounts

/-! ## The words of a span -/

theorem spanSeconds_eq (millis : Int) : (spanSeconds millis : Int) = max millis 0 / 1000 := by
  unfold spanSeconds
  omega

/-- The greatest count of a unit that does not yet come to a larger one. Days are counted up to a
month beside months, and up to a week elsewhere. -/
def SpanUnit.limit? (first : SpanUnit) : SpanUnit → Option Nat
  | .second => some 59
  | .minute => some 59
  | .hour => some 23
  | .day => some (if first = .month then 29 else 6)
  | .week => some 4
  | .month => some 11
  | .year => none

/-- The count stays within its limit in words that begin with a unit. -/
def Phrase.IsNormal (first : SpanUnit) (phrase : Phrase) : Prop :=
  ∀ limit, first.limit? phrase.unit = some limit → phrase.count ≤ limit

/-- The last five days of a year, beyond its twelve months. -/
def BeyondMonths (seconds : Nat) : Prop := 360 * 86400 ≤ seconds % (365 * 86400)

/-- The count of an amount that may stand in words that begin with a unit. -/
def Amount.MayStand (seconds : Nat) (first : SpanUnit) (amount : Amount) : Prop :=
  amount.phrase.IsNormal first ∨ amount.unit = .month ∧ amount.count = 12 ∧ BeyondMonths seconds

section Counts

variable {seconds : Nat} {first : SpanUnit} {amount rest : Amount}

theorem mayStand_of_le {limit : Nat} (hlimit : first.limit? amount.unit = some limit)
    (hcount : amount.count ≤ limit) : amount.MayStand seconds first := by
  refine Or.inl fun other hother => ?_
  obtain rfl : limit = other := Option.some.inj (hlimit.symm.trans hother)
  exact hcount

/-- The months of so many seconds of a year. -/
theorem mayStand_of_months {months : Nat}
    (hmonths : months ≤ 11 ∨ months = 12 ∧ BeyondMonths seconds) :
    Amount.MayStand seconds first ⟨months, .month⟩ := by
  rcases hmonths with hfew | ⟨rfl, hbeyond⟩
  · exact mayStand_of_le rfl hfew
  · exact Or.inr ⟨rfl, rfl, hbeyond⟩

theorem mem_withRest {other : Amount} (hmem : other ∈ amount.withRest rest) :
    other = amount ∨ other = rest := by
  rcases List.mem_cons.mp hmem with hfirst | hrest
  · exact Or.inl hfirst
  · split at hrest
    · cases hrest
    · exact Or.inr (List.mem_singleton.mp hrest)

/-- Words that begin with one of two amounts, each of which may stand. -/
theorem mayStand_withRest (hamount : amount.MayStand seconds amount.unit)
    (hrest : rest.MayStand seconds amount.unit) :
    ∃ first beside, amount.withRest rest = first :: beside
      ∧ ∀ other ∈ first :: beside, other.MayStand seconds first.unit := by
  refine ⟨amount, _, rfl, fun other hmem => ?_⟩
  rcases mem_withRest hmem with rfl | rfl
  · exact hamount
  · exact hrest

theorem mayStand_singleton (hamount : amount.MayStand seconds amount.unit) :
    ∃ first beside, [amount] = first :: beside
      ∧ ∀ other ∈ first :: beside, other.MayStand seconds first.unit :=
  ⟨amount, [], rfl, List.forall_mem_singleton.mpr hamount⟩

/-- What is left of a unit stays below it, but a year has days beyond its twelve months. -/
theorem mayStand_amounts (seconds : Nat) :
    ∃ first beside, amounts seconds = first :: beside
      ∧ ∀ amount ∈ first :: beside, amount.MayStand seconds first.unit := by
  have hmonths : ∀ months, months = seconds % (365 * 86400) / (30 * 86400) →
      months ≤ 11 ∨ months = 12 ∧ BeyondMonths seconds := by
    unfold BeyondMonths
    omega
  rw [amounts_eq]
  split_ifs with hyear hmonth hweek hday hhour hminute
  · have hyears : Amount.MayStand seconds .year ⟨seconds / (365 * 86400), .year⟩ := Or.inl nofun
    exact mayStand_withRest hyears (mayStand_of_months (hmonths _ (by omega)))
  · have hdays : seconds / 86400 % 30 ≤ 29 := by omega
    exact mayStand_withRest (mayStand_of_months (hmonths _ (by omega))) (mayStand_of_le rfl hdays)
  · have hweeks : seconds / (7 * 86400) ≤ 4 := by omega
    have hdays : seconds / 86400 % 7 ≤ 6 := by omega
    exact mayStand_withRest (mayStand_of_le rfl hweeks) (mayStand_of_le rfl hdays)
  · have hdays : seconds / 86400 ≤ 6 := by omega
    have hhours : seconds / 3600 % 24 ≤ 23 := by omega
    exact mayStand_withRest (mayStand_of_le rfl hdays) (mayStand_of_le rfl hhours)
  · have hhours : seconds / 3600 ≤ 23 := by omega
    have hminutes : seconds / 60 % 60 ≤ 59 := by omega
    exact mayStand_withRest (mayStand_of_le rfl hhours) (mayStand_of_le rfl hminutes)
  · have hminutes : seconds / 60 ≤ 59 := by omega
    exact mayStand_singleton (mayStand_of_le rfl hminutes)
  · have hseconds : seconds ≤ 59 := by omega
    exact mayStand_singleton (mayStand_of_le rfl hseconds)

theorem mem_amounts_of_beyond (hbeyond : BeyondMonths seconds) :
    ⟨12, .month⟩ ∈ amounts seconds := by
  unfold BeyondMonths at hbeyond
  rw [amounts_eq]
  split
  · have hcount : seconds / 86400 % 365 / 30 = 12 := by omega
    rw [hcount]
    exact List.mem_cons_of_mem _ List.mem_cons_self
  · have hcount : seconds / (30 * 86400) = 12 := by omega
    rw [if_pos (by omega), hcount]
    exact List.mem_cons_self

end Counts

/-- **No count comes to the next larger unit, but for the twelve months in the last five days of a
year.** -/
theorem counts_of_spanText (millis : Int) :
    ∃ (seconds : Nat) (first : Phrase) (beside : List Phrase),
      (seconds : Int) = max millis 0 / 1000
      ∧ Phrase.readAll? (spanText millis) = some (first :: beside)
      ∧ (∀ phrase ∈ first :: beside, phrase.IsNormal first.unit
          ∨ phrase.unit = .month ∧ phrase.count = 12 ∧ BeyondMonths seconds)
      ∧ (BeyondMonths seconds →
          ∃ phrase ∈ first :: beside, phrase.unit = .month ∧ phrase.count = 12) := by
  obtain ⟨seconds, hseconds⟩ : ∃ seconds, spanSeconds millis = seconds := ⟨_, rfl⟩
  obtain ⟨first, beside, hamounts, hstand⟩ := mayStand_amounts seconds
  have hread := readAll?_spanText millis
  rw [hseconds, hamounts] at hread
  refine ⟨seconds, first.phrase, beside.map Amount.phrase, ?_, hread, ?_, ?_⟩
  · rw [← hseconds, spanSeconds_eq]
  · intro phrase hmem
    rw [← List.map_cons] at hmem
    obtain ⟨amount, hamount, rfl⟩ := List.mem_map.mp hmem
    exact hstand amount hamount
  · intro hbeyond
    have hmem := mem_amounts_of_beyond hbeyond
    rw [hamounts] at hmem
    exact ⟨_, List.mem_map_of_mem hmem, rfl, rfl⟩

/-- After 360 days the words say twelve months, and five days before the end of the second year as
well. -/
theorem twelve_months_shown :
    spanText (360 * 86400000) = "12 months"
      ∧ spanText (725 * 86400000) = "1 year 12 months"
      ∧ ¬ ∀ millis first beside, Phrase.readAll? (spanText millis) = some (first :: beside) →
          ∀ phrase ∈ first :: beside, phrase.IsNormal first.unit := by
  have hmonths : spanText (360 * 86400000) = "12 months" := by decide +kernel
  refine ⟨hmonths, by decide +kernel, fun hall => ?_⟩
  have hread : Phrase.readAll? (spanText (360 * 86400000)) = some [⟨12, .month, true⟩] :=
    readAll?_spanText _
  have hnormal := hall _ _ _ hread ⟨12, .month, true⟩ List.mem_cons_self 11 rfl
  exact absurd hnormal (by decide)

end AddressBoard.History

import AddressBoard.Proofs.History.Millis
import AddressBoard.Proofs.History.Paging
import AddressBoard.Proofs.History.Spans

/-!
# Tenures side by side

A tenure ends where the next one begins. So in a log whose times are milliseconds, the tenures of
the rows between two rows add up to the time from one to the other, wherever the pages are divided,
and none of the numbers on the way leaves the 64 bits that a machine counts with.
-/

namespace AddressBoard

/-! ## Numbers of 64 bits -/

namespace Signed

/-- A number that fits in 64 bits with a sign. -/
def fit? (number : Int) : Option Int :=
  if Numeral.leastSigned ≤ number ∧ number ≤ Numeral.greatestSigned then some number else none

def add? (first second : Int) : Option Int := fit? (first + second)

def sub? (first second : Int) : Option Int := fit? (first - second)

def mul? (first second : Int) : Option Int := fit? (first * second)

/-- The sum from the first number on, with every partial sum checked. -/
def sum? (numbers : List Int) : Option Int := numbers.foldlM add? 0

theorem fit?_of_bounds {number : Int} (hleast : Numeral.leastSigned ≤ number)
    (hgreatest : number ≤ Numeral.greatestSigned) : fit? number = some number :=
  if_pos ⟨hleast, hgreatest⟩

theorem fit?_of_small {number : Int} (hleast : -1000000000000000000 ≤ number)
    (hgreatest : number ≤ 1000000000000000000) : fit? number = some number := by
  apply fit?_of_bounds
  · unfold Numeral.leastSigned
    omega
  · unfold Numeral.greatestSigned
    omega

end Signed

namespace Calendar.Instant

/-- The difference in milliseconds from days, seconds and nanoseconds apart, with every result
checked. Below zero the nanoseconds are taken off a second more, so that the rest is cut off toward
zero. -/
def checkedMillisSince? (later earlier : Instant) : Option Int := do
  let days ← Signed.sub? later.dayNumber earlier.dayNumber
  let daySeconds ← Signed.mul? days secondsPerDay
  let clock ← Signed.sub? later.secondOfDay earlier.secondOfDay
  let corrected ← Signed.add? clock (leapCorrection later earlier)
  let nanos ← Signed.sub? later.nano earlier.nano
  let carried ← Signed.add? corrected (nanos / nanosPerSecond)
  let seconds ← Signed.add? daySeconds carried
  let rest := nanos % nanosPerSecond
  if seconds < 0 ∧ 0 < rest then
    let whole ← Signed.mul? (seconds + 1) 1000
    Signed.add? whole ((rest - nanosPerSecond).tdiv 1000000)
  else
    let whole ← Signed.mul? seconds 1000
    Signed.add? whole (rest.tdiv 1000000)

theorem leapCorrection_bounds (later earlier : Instant) :
    -1 ≤ leapCorrection later earlier ∧ leapCorrection later earlier ≤ 1 := by
  unfold leapCorrection
  split
  · omega
  · split <;> omega

/-- The nanoseconds of an instant, those of a leap second included. -/
def IsProper (instant : Instant) : Prop := instant.InRange ∧ instant.nano < 2 * nanosPerSecond

theorem tdiv_million (nanos : Int) :
    nanos.tdiv 1000000
      = nanos / 1000000 + if 0 ≤ nanos ∨ (1000000 : Int) ∣ nanos then 0 else 1 :=
  Int.tdiv_eq_ediv

section Parts

variable {seconds rest : Int} (hrest : 0 ≤ rest) (hcarried : rest < 1000000000)
include hrest hcarried

theorem millis_of_negative (hnegative : seconds < 0 ∧ 0 < rest) :
    (seconds + 1) * 1000 + (rest - 1000000000).tdiv 1000000
      = (seconds * 1000000000 + rest).tdiv 1000000 := by
  rw [tdiv_million, tdiv_million]
  split <;> split <;> omega

theorem millis_of_not_negative (hnegative : ¬ (seconds < 0 ∧ 0 < rest)) :
    seconds * 1000 + rest.tdiv 1000000 = (seconds * 1000000000 + rest).tdiv 1000000 := by
  rw [tdiv_million, tdiv_million]
  split <;> split <;> omega

end Parts

theorem checkedMillisSince?_eq {later earlier : Instant} (hlater : later.IsProper)
    (hearlier : earlier.IsProper) :
    checkedMillisSince? later earlier = some (later.millisSince earlier) := by
  obtain ⟨hleast, hgreatest⟩ := leapCorrection_bounds later earlier
  unfold checkedMillisSince? millisSince nanosSince
  generalize leapCorrection later earlier = correction at hleast hgreatest
  simp only [IsProper, InRange, earliestSecond, latestSecond, nanosPerSecond] at hlater hearlier
  simp only [dayNumber, secondOfDay, secondsPerDay, nanosPerSecond, Int.cast_ofNat_Int]
  simp (disch := omega) only [Signed.sub?, Signed.mul?, Signed.add?, Signed.fit?_of_small,
    Option.bind_eq_bind, Option.bind_some]
  obtain ⟨seconds, hseconds⟩ : ∃ seconds,
      (later.second / 86400 - earlier.second / 86400) * 86400
        + (later.second % 86400 - earlier.second % 86400 + correction
          + ((later.nano : Int) - earlier.nano) / 1000000000) = seconds := ⟨_, rfl⟩
  obtain ⟨rest, hrest⟩ : ∃ rest, ((later.nano : Int) - earlier.nano) % 1000000000 = rest :=
    ⟨_, rfl⟩
  have htotal : ((later.second / 86400 - earlier.second / 86400) * 86400
        + (later.second % 86400 - earlier.second % 86400) + correction) * 1000000000
        + ((later.nano : Int) - earlier.nano) = seconds * 1000000000 + rest := by
    omega
  have hpositive : 0 ≤ rest := by omega
  have hcarried : rest < 1000000000 := by omega
  have hfits : Signed.fit? ((seconds * 1000000000 + rest).tdiv 1000000)
      = some ((seconds * 1000000000 + rest).tdiv 1000000) := by
    apply Signed.fit?_of_small <;> rw [tdiv_million] <;> split <;> omega
  rw [hseconds, hrest, htotal, ← hfits]
  split
  · next hnegative => rw [millis_of_negative hpositive hcarried hnegative]
  · next hnegative => rw [millis_of_not_negative hpositive hcarried hnegative]

/-! ## Instants at whole milliseconds -/

def atMillis (millis : Int) : Instant := ⟨millis / 1000, (millis % 1000).toNat * 1000000⟩

/-- The milliseconds that lie in the range of dates. -/
def IsDated (millis : Int) : Prop :=
  earliestSecond * 1000 ≤ millis ∧ millis < (latestSecond + 1) * 1000

instance (millis : Int) : Decidable (IsDated millis) := inferInstanceAs (Decidable (_ ∧ _))

theorem isProper_atMillis {millis : Int} (hdated : IsDated millis) :
    (atMillis millis).IsProper := by
  simp only [IsDated, earliestSecond, latestSecond] at hdated
  simp only [IsProper, InRange, atMillis, earliestSecond, latestSecond, nanosPerSecond]
  omega

theorem millisSince_atMillis (later earlier : Int) :
    (atMillis later).millisSince (atMillis earlier) = later - earlier := by
  have hwhole : ∀ millis, (atMillis millis).isLeap = false
      ∧ (atMillis millis).unixNanos = millis * 1000000 := by
    intro millis
    constructor
    · apply decide_eq_false
      change ¬ 1000000000 ≤ (millis % 1000).toNat * 1000000
      omega
    · simp only [unixNanos, atMillis, nanosPerSecond]
      omega
  rw [millisSince, nanosSince_eq_sub (hwhole later).1 (hwhole earlier).1, (hwhole later).2,
    (hwhole earlier).2, ← Int.sub_mul]
  exact Int.mul_tdiv_cancel _ (by decide)

/-- Differences of dates are far from the ends of 64 bits. -/
theorem fit?_sub {later earlier : Int} (hlater : IsDated later) (hearlier : IsDated earlier) :
    Signed.fit? (later - earlier) = some (later - earlier) := by
  simp only [IsDated, earliestSecond, latestSecond] at hlater hearlier
  apply Signed.fit?_of_small <;> omega

end Calendar.Instant

namespace History

open Calendar (Instant IsCount)
open Json (Lexeme Tree Written)

/-! ## Logs in milliseconds -/

/-- A time that is written as a count of milliseconds, as a number or as a text. -/
inductive CountsMillis : Tree → Int → Prop where
  | number {lexeme : Lexeme} {millis : Int} (hinteger : lexeme.integer? = some millis) :
      CountsMillis (.number lexeme) millis
  | text {content : List Char} {millis : Int} (hcount : IsCount content millis) :
      CountsMillis (.text (Json.units content)) millis

/-- An event at a count of milliseconds that lies in the range of dates. -/
inductive IsEventAt : Tree → Int → Prop where
  | event {address : String} {event : Tree → Tree} {time : Tree} {millis : Int}
      (hevent : EventOf address event) (htime : CountsMillis time millis)
      (hdated : Instant.IsDated millis) : IsEventAt (event time) millis

theorem CountsMillis.instantOf?_eq {time : Tree} {millis : Int} (htime : CountsMillis time millis)
    (hdated : Instant.IsDated millis) : instantOf? time = some (Instant.atMillis millis) := by
  have hmillis : Instant.ofMillis? millis = some (Instant.atMillis millis) :=
    Instant.ofMillis?_eq_some_iff.mpr ⟨hdated, rfl⟩
  have hbounds : Numeral.leastSigned ≤ millis ∧ millis ≤ Numeral.greatestSigned := by
    simp only [Instant.IsDated, Instant.earliestSecond, Instant.latestSecond] at hdated
    simp only [Numeral.leastSigned, Numeral.greatestSigned]
    omega
  cases htime with
  | number hinteger => rw [instantOf?_of_integer hbounds.1 hbounds.2 hinteger, hmillis]
  | text hcount => rw [instantOf?_of_count hbounds.1 hbounds.2 hcount, hmillis]

theorem exists_mapM_changeOf? {events : List Tree} {times : List Int}
    (hevents : List.Forall₂ IsEventAt events times) :
    ∃ log, events.mapM changeOf? = some log
      ∧ log.map Change.time = times.map Instant.atMillis := by
  induction hevents with
  | nil => exact ⟨[], rfl, rfl⟩
  | cons hfirst _ ih =>
    obtain ⟨log, hread, htimes⟩ := ih
    cases hfirst with
    | @event address _ _ _ hevent htime hdated =>
      refine ⟨⟨address, Instant.atMillis _⟩ :: log, ?_, congrArg _ htimes⟩
      rw [List.mapM_cons, hevent.changeOf?_eq, htime.instantOf?_eq hdated, hread]
      rfl

/-- A log in milliseconds is read, with an instant for every count. -/
theorem exists_readLog {raw : String} {events : List Tree} {times : List Int}
    (hwritten : Written raw (.array events)) (hevents : List.Forall₂ IsEventAt events times) :
    ∃ log, readLog raw = .ok log ∧ log.map Change.time = times.map Instant.atMillis := by
  obtain ⟨log, hread, htimes⟩ := exists_mapM_changeOf? hevents
  refine ⟨log, ?_, htimes⟩
  rw [← Json.toOption_eq_some, toOption_readLog hwritten]
  exact hread

theorem isDated_of_events {events : List Tree} {times : List Int}
    (hevents : List.Forall₂ IsEventAt events times) : ∀ time ∈ times, Instant.IsDated time := by
  induction hevents with
  | nil => exact List.forall_mem_nil _
  | cons hfirst _ ih =>
    cases hfirst with
    | event _ _ hdated => exact List.forall_mem_cons.mpr ⟨hdated, ih⟩

/-! ## Spans of rows -/

def Tenure.millis? : Tenure → Option Int
  | .ongoing => none
  | .lasted millis => some millis

/-- The tenures of rows that are over, in milliseconds. -/
def spans (rows : List Entry) : List Int := rows.filterMap fun entry => entry.tenure.millis?

theorem spans_of_lasted {entry : Entry} {millis : Int} (htenure : entry.tenure = .lasted millis)
    (rows : List Entry) : spans (entry :: rows) = millis :: spans rows :=
  List.filterMap_cons_some (congrArg Tenure.millis? htenure)

/-- The differences between neighbouring times, the first of them from a time before. -/
def gaps : Int → List Int → List Int
  | _, [] => []
  | newer, time :: older => (newer - time) :: gaps time older

theorem spans_entriesFrom {place : Nat} {newer : Change} {changes : List Change} {time : Int}
    {times : List Int} (hnewer : newer.time = Instant.atMillis time)
    (htimes : changes.map Change.time = times.map Instant.atMillis) :
    spans (entriesFrom place (some newer) changes) = gaps time times := by
  induction changes generalizing place newer time times with
  | nil =>
    obtain rfl : times = [] := List.map_eq_nil_iff.mp htimes.symm
    rfl
  | cons change older ih =>
    cases times with
    | nil => cases htimes
    | cons first others =>
      rw [List.map_cons, List.map_cons, List.cons.injEq] at htimes
      have hspan : change.tenure (some newer) = .lasted (time - first) := by
        rw [Change.tenure, hnewer, htimes.1, Instant.millisSince_atMillis]
      rw [entriesFrom, spans_of_lasted hspan, ih htimes.1 htimes.2, gaps]

/-- The newest change has no span. -/
theorem spans_entries {changes : List Change} {newest : Int} {times : List Int}
    (htimes : changes.map Change.time = (newest :: times).map Instant.atMillis) :
    spans (entries changes) = gaps newest times := by
  cases changes with
  | nil => cases htimes
  | cons change older =>
    rw [List.map_cons, List.map_cons, List.cons.injEq] at htimes
    exact spans_entriesFrom htimes.1 htimes.2

/-- Neighbouring differences add up to the difference of the ends. -/
theorem sum?_gaps {start time last : Int} {times : List Int} (hstart : Instant.IsDated start)
    (hdated : ∀ other ∈ time :: times, Instant.IsDated other)
    (hlast : (time :: times).getLast? = some last) :
    (gaps time times).foldlM Signed.add? (start - time) = some (start - last) := by
  induction times generalizing time with
  | nil =>
    rw [List.getLast?_singleton, Option.some.injEq] at hlast
    rw [gaps, List.foldlM_nil, hlast]
    rfl
  | cons next others ih =>
    have hnext := (List.forall_mem_cons.mp hdated).2
    have hsum : Signed.add? (start - time) (time - next) = some (start - next) := by
      have hjoin : start - time + (time - next) = start - next := by omega
      rw [Signed.add?, hjoin, Instant.fit?_sub hstart (hnext next List.mem_cons_self)]
    rw [List.getLast?_cons_cons] at hlast
    rw [gaps, List.foldlM_cons, hsum]
    exact ih hnext hlast

theorem length_gaps (time : Int) (times : List Int) : (gaps time times).length = times.length := by
  induction times generalizing time with
  | nil => rfl
  | cons next others ih => rw [gaps, List.length_cons, List.length_cons, ih]

theorem gaps_nonneg {time : Int} {times : List Int}
    (hsorted : (time :: times).Pairwise fun later earlier => earlier ≤ later) :
    ∀ gap ∈ gaps time times, 0 ≤ gap := by
  induction times generalizing time with
  | nil => exact List.forall_mem_nil _
  | cons next others ih =>
    obtain ⟨hfirst, hothers⟩ := List.pairwise_cons.mp hsorted
    have hnext := hfirst next List.mem_cons_self
    exact List.forall_mem_cons.mpr ⟨by omega, ih hothers⟩

theorem map_time_entriesFrom (place : Nat) (newer? : Option Change) (changes : List Change) :
    (entriesFrom place newer? changes).map Entry.time = changes.map Change.time := by
  induction changes generalizing place newer? with
  | nil => rfl
  | cons change older ih => rw [entriesFrom, List.map_cons, List.map_cons, ih]

theorem drop_entriesFrom (place : Nat) (newer? : Option Change) (changes : List Change)
    (count : Nat) :
    (entriesFrom place newer? changes).drop (count + 1)
      = entriesFrom (place + count + 1) changes[count]? (changes.drop (count + 1)) := by
  induction changes generalizing place newer? count with
  | nil => rfl
  | cons change older ih =>
    cases count with
    | zero => rfl
    | succ count =>
      have hplace : place + 1 + count + 1 = place + (count + 1) + 1 := by omega
      rw [entriesFrom, List.drop_succ_cons, ih, hplace]
      rfl

theorem take_entriesFrom (place : Nat) (newer? : Option Change) (changes : List Change)
    (count : Nat) :
    (entriesFrom place newer? changes).take count
      = entriesFrom place newer? (changes.take count) := by
  induction changes generalizing place newer? count with
  | nil => simp [entriesFrom]
  | cons change older ih =>
    cases count with
    | zero => rfl
    | succ count => rw [entriesFrom, List.take_succ_cons, ih, List.take_succ_cons, entriesFrom]

/-! ## Rows of a log in milliseconds -/

section Rows

variable {changes : List Change} {times : List Int}
  (htimes : changes.map Change.time = times.map Instant.atMillis)
include htimes

theorem exists_time_of_change {index : Nat} {change : Change}
    (hchange : changes[index]? = some change) :
    ∃ time, times[index]? = some time ∧ change.time = Instant.atMillis time := by
  have hboth := congrArg (·[index]?) htimes
  simp only [List.getElem?_map, hchange, Option.map_some] at hboth
  obtain ⟨time, htime, heq⟩ := Option.map_eq_some_iff.mp hboth.symm
  exact ⟨time, htime, heq.symm⟩

theorem exists_change_of_time {index : Nat} {time : Int} (htime : times[index]? = some time) :
    ∃ change, changes[index]? = some change ∧ change.time = Instant.atMillis time := by
  have hboth := congrArg (·[index]?) htimes
  simp only [List.getElem?_map, htime, Option.map_some] at hboth
  exact Option.map_eq_some_iff.mp hboth

theorem spans_between {count : Nat} {later : Int} (hlater : times[count]? = some later)
    (length : Nat) :
    spans (((entries changes).drop (count + 1)).take length)
      = gaps later ((times.drop (count + 1)).take length) := by
  obtain ⟨change, hchange, htime⟩ := exists_change_of_time htimes hlater
  rw [entries, drop_entriesFrom, take_entriesFrom, hchange]
  apply spans_entriesFrom htime
  rw [List.map_take, List.map_drop, htimes, List.map_take, List.map_drop]

/-- The tenures between two rows add up to the time from one to the other. -/
theorem sum?_spans_between (hdated : ∀ time ∈ times, Instant.IsDated time) {first last : Nat}
    {later earlier : Int} (hle : first ≤ last) (hlater : times[first]? = some later)
    (hearlier : times[last]? = some earlier) :
    let between := ((entries changes).drop (first + 1)).take (last - first)
    (spans between).length = last - first
      ∧ Signed.sum? (spans between) = some (later - earlier) := by
  intro between
  obtain ⟨hlast, -⟩ := List.getElem?_eq_some_iff.mp hearlier
  have hspans : spans between = gaps later ((times.drop (first + 1)).take (last - first)) :=
    spans_between htimes hlater _
  have hlength : ((times.drop (first + 1)).take (last - first)).length = last - first := by
    rw [List.length_take, List.length_drop]
    omega
  have hend : (later :: (times.drop (first + 1)).take (last - first)).getLast? = some earlier := by
    rcases Nat.eq_or_lt_of_le hle with rfl | hlt
    · rw [Nat.sub_self, List.take_zero, List.getLast?_singleton, ← hlater, hearlier]
    · have hindex : first + 1 + (last - first - 1) = last := by omega
      rw [List.getLast?_cons, List.getLast?_take, if_neg (by omega), List.getElem?_drop, hindex,
        hearlier]
      rfl
  have hparts : ∀ time ∈ later :: (times.drop (first + 1)).take (last - first),
      Instant.IsDated time := by
    refine List.forall_mem_cons.mpr ⟨hdated later (List.mem_of_getElem? hlater), ?_⟩
    exact fun time hmem => hdated time (List.mem_of_mem_drop (List.mem_of_mem_take hmem))
  have hsum := sum?_gaps (hparts later List.mem_cons_self) hparts hend
  rw [Int.sub_self] at hsum
  rw [hspans, length_gaps]
  exact ⟨hlength, hsum⟩

theorem checked_span (hdated : ∀ time ∈ times, Instant.IsDated time) {place : Nat}
    {newer entry : Entry} (hnewer : (entries changes)[place]? = some newer)
    (hentry : (entries changes)[place + 1]? = some entry) :
    ∃ span, entry.tenure = .lasted span
      ∧ newer.time.checkedMillisSince? entry.time = some span := by
  rw [entries, getElem?_entriesFrom] at hnewer hentry
  obtain ⟨before, hbefore, rfl⟩ := Option.map_eq_some_iff.mp hnewer
  obtain ⟨change, hchange, rfl⟩ := Option.map_eq_some_iff.mp hentry
  have hproper : ∀ (index : Nat) (change : Change), changes[index]? = some change →
      change.time.IsProper := by
    intro index change hchange
    obtain ⟨time, htime, heq⟩ := exists_time_of_change htimes hchange
    rw [heq]
    exact Instant.isProper_atMillis (hdated time (List.mem_of_getElem? htime))
  refine ⟨before.time.millisSince change.time, ?_, ?_⟩
  · simp [hbefore, Change.tenure]
  · exact Instant.checkedMillisSince?_eq (hproper _ _ hbefore) (hproper _ _ hchange)

end Rows

namespace Pager

/-- **Tenures tile a log in milliseconds.** Over the rows of all pages they add up to the time from
the oldest to the newest change, and between any two rows to the time from one to the other. No
difference and no sum leaves 64 bits. In a log whose times ascend no tenure is negative, so every
one is shown with its own seconds. -/
theorem tenures_of_millis {pager : Pager} {size : Nat} (hsize : pager.pageSize = max size 1)
    {raw : String} {events : List Tree} {times : List Int}
    (hwritten : Written raw (.array events)) (hevents : List.Forall₂ IsEventAt events times)
    {oldest newest : Int} (holdest : times.head? = some oldest)
    (hnewest : times.getLast? = some newest) (label : String) :
    let rows := (pager.openLog raw label).1.sheets.flatMap Sheet.rows
    rows.map Entry.time = times.reverse.map Instant.atMillis
      ∧ Signed.sum? (spans rows) = some (newest - oldest)
      ∧ (∀ first last later earlier, 0 < first → first ≤ last →
          times.reverse[first - 1]? = some later → times.reverse[last - 1]? = some earlier →
          let between := (rows.drop first).take (last - first)
          (spans between).length = last - first
            ∧ Signed.sum? (spans between) = some (later - earlier))
      ∧ (∀ place newer entry, rows[place]? = some newer → rows[place + 1]? = some entry →
          ∃ span, entry.tenure = .lasted span
            ∧ newer.time.checkedMillisSince? entry.time = some span)
      ∧ (times.Pairwise (· ≤ ·) →
          ∀ span ∈ spans rows, 0 ≤ span ∧ (spanSeconds span : Int) = span / 1000) := by
  intro rows
  obtain ⟨log, hread, hlog⟩ := exists_readLog hwritten hevents
  have hrows : rows = entries log.reverse := by
    have hopened : (pager.openLog raw label).1 = pager.showing log label := by
      rw [openLog, hread]
    change (pager.openLog raw label).1.sheets.flatMap Sheet.rows = _
    rw [hopened, rows_sheets_showing pager log label (by omega)]
  have htimes : log.reverse.map Change.time = times.reverse.map Instant.atMillis := by
    rw [List.map_reverse, List.map_reverse, hlog]
  have hdated : ∀ time ∈ times.reverse, Instant.IsDated time := fun time hmem =>
    isDated_of_events hevents time (List.mem_reverse.mp hmem)
  obtain ⟨older, holder⟩ : ∃ older, times.reverse = newest :: older := by
    rw [← List.head?_reverse] at hnewest
    exact List.head?_eq_some_iff.mp hnewest
  have hspans : spans (entries log.reverse) = gaps newest older :=
    spans_entries (holder ▸ htimes)
  rw [hrows]
  refine ⟨?_, ?_, ?_, fun _ _ _ => checked_span htimes hdated, ?_⟩
  · rw [entries, map_time_entriesFrom, htimes]
  · rw [← List.getLast?_reverse, holder] at holdest
    rw [holder] at hdated
    have hsum := sum?_gaps (hdated newest List.mem_cons_self) hdated holdest
    rwa [Int.sub_self, ← hspans] at hsum
  · intro first last later earlier hpos hle hlater hearlier
    obtain ⟨first, rfl⟩ : ∃ before, first = before + 1 := ⟨first - 1, by omega⟩
    obtain ⟨last, rfl⟩ : ∃ before, last = before + 1 := ⟨last - 1, by omega⟩
    rw [Nat.add_sub_add_right]
    exact sum?_spans_between htimes hdated (Nat.le_of_succ_le_succ hle) hlater hearlier
  · intro hsorted span hspan
    have hdescending : (newest :: older).Pairwise fun later earlier => earlier ≤ later := by
      rw [← holder, List.pairwise_reverse]
      exact hsorted
    have hnonneg : 0 ≤ span := gaps_nonneg hdescending span (hspans ▸ hspan)
    refine ⟨hnonneg, ?_⟩
    rw [spanSeconds_eq, Int.max_eq_left hnonneg]

/-- Three changes on pages of two rows, the first of them before 1970 and the second at a text. -/
theorem tenures_of_millis_of_three :
    let raw := "[[\"a\",-1500],[\"b\",\"250\"],[\"c\",3000]]"
    let rows := ((closed 2).openLog raw "x").1.sheets.flatMap Sheet.rows
    Signed.sum? (spans rows) = some 4500
      ∧ Signed.sum? (spans ((rows.drop 2).take 1)) = some 1750
      ∧ ∀ span ∈ spans rows, 0 ≤ span := by
  have hwritten : Written "[[\"a\",-1500],[\"b\",\"250\"],[\"c\",3000]]"
      (.array [.array [.text (Json.units ['a']), .number ⟨true, ['1', '5', '0', '0'], [], none⟩],
        .array [.text (Json.units ['b']), .text (Json.units ['2', '5', '0'])],
        .array [.text (Json.units ['c']), .number ⟨false, ['3', '0', '0', '0'], [], none⟩]]) :=
    ⟨[], .array (.refl _)
      (.element rfl (.pair (.plain (by simp) _) (.integer (by simp) (by simp) (by simp) _))
        (.element (.refl _) (.pair (.plain (by simp) _) (.plain (by simp) _))
          (.element (.refl _)
            (.pair (.plain (by simp) _) (.integer (by simp) (by simp) (by simp) _))
            (.noElement (.refl _))))), .refl _⟩
  have hpair : ∀ address, EventOf address fun time =>
      .array [.text (Json.units address.toList), time] := fun _ => .pair
  have hcount : IsCount ['2', '5', '0'] 250 :=
    ⟨[], (toString (250 : Int)).toList, [], rfl, List.forall_mem_nil _, List.forall_mem_nil _,
      Numeral.isSigned_toString _⟩
  obtain ⟨-, htotal, hbetween, -, hshown⟩ :=
    @tenures_of_millis (closed 2) 2 rfl _ _ [-1500, 250, 3000] hwritten
      (.cons (.event (hpair "a") (.number rfl) (by decide))
        (.cons (.event (hpair "b") (.text hcount) (by decide))
          (.cons (.event (hpair "c") (.number rfl) (by decide)) .nil)))
      (-1500) 3000 rfl rfl "x"
  exact ⟨htotal, (hbetween 2 3 250 (-1500) (by decide) (by decide) rfl rfl).2,
    fun span hspan => (hshown (by decide) span hspan).1⟩

end Pager

end History

end AddressBoard

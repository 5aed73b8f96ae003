import AddressBoard.History.Pager
import AddressBoard.Proofs.History.Reading

/-!
# Turning the pages

The pages of an opened log, turned one by one until there is no next page, show the log from the
newest change to the oldest: nothing is lost, shown twice or out of order, and the tenure of a row
does not depend on where the pages are divided.
-/

namespace AddressBoard

/-! ## Times between instants -/

namespace Calendar.Instant

def unixNanos (instant : Instant) : Int := instant.second * nanosPerSecond + instant.nano

/-- Apart from leap seconds the time between two instants is the difference of their Unix times. -/
theorem nanosSince_eq_sub {later earlier : Instant} (hlater : later.isLeap = false)
    (hearlier : earlier.isLeap = false) :
    later.nanosSince earlier = later.unixNanos - earlier.unixNanos := by
  have hcorrection : leapCorrection later earlier = 0 := by
    simp [leapCorrection, hlater, hearlier]
  unfold nanosSince unixNanos
  simp only [hcorrection, dayNumber, secondOfDay, secondsPerDay, nanosPerSecond]
  omega

end Calendar.Instant

namespace History

/-! ## Entries -/

theorem getElem?_entriesFrom (place : Nat) (newer? : Option Change) (changes : List Change)
    (index : Nat) :
    (entriesFrom place newer? changes)[index]?
      = changes[index]?.map fun change =>
          { place := place + index
            address := change.address
            time := change.time
            tenure := change.tenure (if index = 0 then newer? else changes[index - 1]?) } := by
  induction changes generalizing place newer? index with
  | nil => rfl
  | cons change older ih =>
    cases index with
    | zero => rfl
    | succ index =>
      have hplace : place + 1 + index = place + (index + 1) := by omega
      rw [entriesFrom, List.getElem?_cons_succ, List.getElem?_cons_succ, ih, hplace]
      cases index <;> rfl

namespace Pager

/-! ## Page numbers -/

theorem mul_pageSize_lt {pager : Pager} {page : Nat} (hpage : 0 < page)
    (hlast : page < pager.totalPages) : page * pager.pageSize < pager.changes.length := by
  have hceil : page < (pager.changes.length + pager.pageSize - 1) / pager.pageSize := by
    unfold totalPages at hlast
    omega
  have hsize : 0 < pager.pageSize := by
    apply Nat.pos_of_ne_zero
    intro hzero
    rw [hzero, Nat.div_zero] at hceil
    omega
  have hmul : (page + 1) * pager.pageSize ≤ pager.changes.length + pager.pageSize - 1 :=
    (Nat.le_div_iff_mul_le hsize).mp hceil
  rw [Nat.succ_mul] at hmul
  omega

theorem length_le_mul_pageSize {pager : Pager} (hsize : 0 < pager.pageSize) :
    pager.changes.length ≤ pager.totalPages * pager.pageSize := by
  have hceil : (pager.changes.length + pager.pageSize - 1) / pager.pageSize
      < pager.totalPages + 1 := by
    unfold totalPages
    omega
  have hmul := (Nat.div_lt_iff_lt_mul hsize).mp hceil
  rw [Nat.succ_mul] at hmul
  omega

/-! ## Turning pages -/

def turnedTo (pager : Pager) (page : Nat) : Pager := { pager with page }

theorem next?_of_lt {pager : Pager} (hpage : pager.page < pager.totalPages) :
    pager.next? = some (pager.turnedTo (pager.page + 1)) := by
  simp [next?, hasNext, hpage, turnedTo]

theorem next?_of_le {pager : Pager} (hpage : pager.totalPages ≤ pager.page) :
    pager.next? = none := by
  simp [next?, hasNext, hpage]

theorem next?_decreases {pager next : Pager} (hnext : pager.next? = some next) :
    next.totalPages - next.page < pager.totalPages - pager.page := by
  by_cases hpage : pager.page < pager.totalPages
  · rw [next?_of_lt hpage] at hnext
    rw [← Option.some.inj hnext]
    change pager.totalPages - (pager.page + 1) < _
    omega
  · rw [next?_of_le (Nat.le_of_not_lt hpage)] at hnext
    cases hnext

/-- What is seen from a page on, turning to the next page until there is none. -/
def sheets (pager : Pager) : List Sheet :=
  match _ : pager.next? with
  | none => [pager.sheet]
  | some next => pager.sheet :: next.sheets
termination_by pager.totalPages - pager.page
decreasing_by exact next?_decreases (by assumption)

theorem sheets_of_last {pager : Pager} (hnext : pager.next? = none) :
    pager.sheets = [pager.sheet] := by
  rw [sheets]
  split
  · rfl
  · next hsome => rw [hnext] at hsome; cases hsome

theorem sheets_of_next {pager next : Pager} (hnext : pager.next? = some next) :
    pager.sheets = pager.sheet :: next.sheets := by
  rw [sheets]
  split
  · next hnone => rw [hnext] at hnone; cases hnone
  · next other hsome =>
    rw [hnext] at hsome
    rw [Option.some.inj hsome]

/-- Every page from the present one to the last is seen once, in order. -/
theorem sheets_eq_map {pager : Pager} (hpage : pager.page ≤ pager.totalPages) :
    pager.sheets
      = (List.range' pager.page (pager.totalPages + 1 - pager.page)).map
          fun page => (pager.turnedTo page).sheet := by
  obtain ⟨left, hleft⟩ : ∃ left, pager.totalPages - pager.page = left := ⟨_, rfl⟩
  induction left generalizing pager with
  | zero =>
    have hone : pager.totalPages + 1 - pager.page = 1 := by omega
    rw [sheets_of_last (next?_of_le (by omega)), hone]
    rfl
  | succ left ih =>
    have hlt : pager.page < pager.totalPages := by omega
    have hstep : pager.totalPages + 1 - pager.page
        = pager.totalPages + 1 - (pager.page + 1) + 1 := by omega
    have hrest := @ih (pager.turnedTo (pager.page + 1)) hlt
      (by change pager.totalPages - (pager.page + 1) = left; omega)
    rw [sheets_of_next (next?_of_lt hlt), hrest, hstep, List.range'_succ]
    rfl

theorem length_sheets {pager : Pager} (hpage : pager.page ≤ pager.totalPages) :
    pager.sheets.length = pager.totalPages + 1 - pager.page := by
  rw [sheets_eq_map hpage, List.length_map, List.length_range']

theorem length_rows (pager : Pager) :
    pager.rows.length = min pager.pageSize (pager.changes.length - pager.start) := by
  simp [rows, entries]

/-- The rows seen from a page on are all entries from that page on. -/
theorem rows_sheets {pager : Pager} (hsize : 0 < pager.pageSize) (hpos : 0 < pager.page)
    (hpage : pager.page ≤ pager.totalPages) :
    pager.sheets.flatMap Sheet.rows = (entries pager.changes).drop pager.start := by
  obtain ⟨left, hleft⟩ : ∃ left, pager.totalPages - pager.page = left := ⟨_, rfl⟩
  induction left generalizing pager with
  | zero =>
    have hlast : pager.page = pager.totalPages := by omega
    have hall := length_le_mul_pageSize hsize
    have hshort : ((entries pager.changes).drop pager.start).length ≤ pager.pageSize := by
      have hrows : pager.totalPages * pager.pageSize = pager.start + pager.pageSize := by
        rw [← hlast, start, ← Nat.succ_mul, Nat.succ_eq_add_one, Nat.sub_add_cancel hpos]
      simp only [entries, List.length_drop, length_entriesFrom]
      omega
    rw [sheets_of_last (next?_of_le (by omega)), List.flatMap_singleton]
    exact List.take_of_length_le hshort
  | succ left ih =>
    have hlt : pager.page < pager.totalPages := by omega
    have hstart : (pager.turnedTo (pager.page + 1)).start = pager.start + pager.pageSize := by
      change (pager.page + 1 - 1) * pager.pageSize = (pager.page - 1) * pager.pageSize + _
      rw [← Nat.succ_mul]
      congr 1
      omega
    have hrest := @ih (pager.turnedTo (pager.page + 1)) hsize (Nat.succ_pos _) hlt
      (by change pager.totalPages - (pager.page + 1) = left; omega)
    rw [sheets_of_next (next?_of_lt hlt), List.flatMap_cons, hrest, hstart, ← List.drop_drop]
    exact List.take_append_drop _ _

theorem length_rows_sheets {pager : Pager} (hsize : 0 < pager.pageSize) (hpage : pager.page = 1)
    {index : Nat} {sheet : Sheet} (hsheet : pager.sheets[index]? = some sheet) :
    sheet.page = index + 1
      ∧ (index + 1 < pager.totalPages → sheet.rows.length = pager.pageSize)
      ∧ (0 < pager.changes.length → 0 < sheet.rows.length)
      ∧ sheet.rows.length ≤ pager.pageSize := by
  have hfirst : pager.page ≤ pager.totalPages := hpage ▸ pager.totalPages_pos
  rw [sheets_eq_map hfirst, hpage, List.getElem?_map] at hsheet
  obtain ⟨page, hget, hturned⟩ := Option.map_eq_some_iff.mp hsheet
  obtain ⟨hindex, hvalue⟩ := List.getElem?_eq_some_iff.mp hget
  rw [List.length_range'] at hindex
  rw [List.getElem_range', Nat.one_mul] at hvalue
  have hstart : (pager.turnedTo page).start = index * pager.pageSize := by
    change (page - 1) * pager.pageSize = index * pager.pageSize
    rw [← hvalue, Nat.add_sub_cancel_left]
  have hlength : sheet.rows.length
      = min pager.pageSize (pager.changes.length - index * pager.pageSize) := by
    rw [← hturned, ← hstart]
    exact (pager.turnedTo page).length_rows
  refine ⟨?_, ?_, ?_, ?_⟩
  · rw [← hturned, Nat.add_comm, hvalue]
    rfl
  · intro hnext
    have hfull := mul_pageSize_lt (Nat.succ_pos index) hnext
    rw [Nat.succ_mul] at hfull
    omega
  · intro hsome
    have hbefore : index * pager.pageSize < pager.changes.length := by
      cases index with
      | zero =>
        rw [Nat.zero_mul]
        exact hsome
      | succ before => exact mul_pageSize_lt (Nat.succ_pos before) (by omega)
    omega
  · omega

/-- The row at a place of an opened log is the change at the same place from the end, and its
tenure ends with the change that follows in the log. -/
theorem getElem?_entries_reverse {log : List Change} {index : Nat} (hindex : index < log.length) :
    ∃ change, log[log.length - 1 - index]? = some change
      ∧ (entries log.reverse)[index]? = some
          { place := index + 1
            address := change.address
            time := change.time
            tenure := change.tenure
              (if index = 0 then none else log[log.length - index]?) } := by
  have hchange : log[log.length - 1 - index]? = some log[log.length - 1 - index] :=
    List.getElem?_eq_getElem (by omega)
  refine ⟨_, hchange, ?_⟩
  rw [entries, getElem?_entriesFrom, List.getElem?_reverse hindex, hchange, Option.map_some,
    Nat.add_comm 1 index]
  by_cases hfirst : index = 0
  · simp [hfirst]
  · have hnewer : log.reverse[index - 1]? = log[log.length - index]? := by
      rw [List.getElem?_reverse (by omega)]
      congr 1
      omega
    rw [hnewer]

theorem tenure_of_newer {log : List Change} {index : Nat} (hpos : 0 < index)
    (hindex : index < log.length) (change : Change) :
    ∃ newer, log[log.length - index]? = some newer
      ∧ change.tenure (if index = 0 then none else log[log.length - index]?)
          = .lasted ((newer.time.nanosSince change.time).tdiv 1000000) := by
  have hnewer : log[log.length - index]? = some log[log.length - index] :=
    List.getElem?_eq_getElem (by omega)
  refine ⟨_, hnewer, ?_⟩
  rw [if_neg (Nat.ne_of_gt hpos), hnewer]
  rfl

/-! ## The pages of an opened log -/

section Showing

variable (pager : Pager) (log : List Change) (label : String)

theorem totalPages_showing :
    (pager.showing log label).totalPages
      = max 1 ((log.length + pager.pageSize - 1) / pager.pageSize) := by
  unfold totalPages
  change max 1 ((log.reverse.length + pager.pageSize - 1) / pager.pageSize) = _
  rw [List.length_reverse]

theorem length_sheets_showing :
    (pager.showing log label).sheets.length = (pager.showing log label).totalPages := by
  have hfirst : (pager.showing log label).page ≤ (pager.showing log label).totalPages :=
    (pager.showing log label).totalPages_pos
  rw [length_sheets hfirst]
  rfl

theorem rows_sheets_showing (hsize : 0 < pager.pageSize) :
    (pager.showing log label).sheets.flatMap Sheet.rows = entries log.reverse := by
  have hopened : 0 < (pager.showing log label).pageSize := hsize
  have hstart : (pager.showing log label).start = 0 := Nat.zero_mul _
  rw [rows_sheets hopened Nat.one_pos (pager.showing log label).totalPages_pos, hstart,
    List.drop_zero]
  rfl

end Showing

/-- Turning all pages of an opened log shows every change once, the newest first and with its place
and its tenure, on pages that are full but for the last one. -/
theorem sheets_openLog {pager : Pager} {size : Nat} (hsize : pager.pageSize = max size 1)
    {raw : String} {log : List Change} (hread : readLog raw = .ok log) (label : String) :
    let sheets := (pager.openLog raw label).1.sheets
    let rows := sheets.flatMap Sheet.rows
    let full := max size 1
    sheets.length = max 1 ((log.length + full - 1) / full)
      ∧ rows.length = log.length
      ∧ (∀ index, index < log.length → ∃ entry change,
          rows[index]? = some entry
          ∧ log[log.length - 1 - index]? = some change
          ∧ entry.place = index + 1
          ∧ entry.address = change.address
          ∧ entry.time = change.time
          ∧ (index = 0 → entry.tenure = .ongoing)
          ∧ (0 < index → ∃ newer millis,
              log[log.length - index]? = some newer
              ∧ entry.tenure = .lasted millis
              ∧ millis = (newer.time.nanosSince change.time).tdiv 1000000
              ∧ (newer.time.isLeap = false → change.time.isLeap = false →
                  millis = (newer.time.unixNanos - change.time.unixNanos).tdiv 1000000)))
      ∧ (∀ index sheet, sheets[index]? = some sheet →
          sheet.page = index + 1
          ∧ (index + 1 < sheets.length → sheet.rows.length = full)
          ∧ (0 < log.length → 0 < sheet.rows.length)
          ∧ sheet.rows.length ≤ full) := by
  intro sheets rows full
  have hopened : (pager.openLog raw label).1 = pager.showing log label := by
    rw [openLog, hread]
  have hpositive : 0 < pager.pageSize := by omega
  have hcount : sheets.length = (pager.showing log label).totalPages := by
    change (pager.openLog raw label).1.sheets.length = _
    rw [hopened, length_sheets_showing]
  have hsheets : sheets.length = max 1 ((log.length + full - 1) / full) := by
    rw [hcount, totalPages_showing, hsize]
  have hrows : rows = entries log.reverse := by
    change (pager.openLog raw label).1.sheets.flatMap Sheet.rows = _
    rw [hopened, rows_sheets_showing pager log label hpositive]
  refine ⟨hsheets, ?_, ?_, ?_⟩
  · rw [hrows, entries, length_entriesFrom, List.length_reverse]
  · intro index hindex
    obtain ⟨change, hchange, hentry⟩ := getElem?_entries_reverse hindex
    refine ⟨_, change, hrows ▸ hentry, hchange, rfl, rfl, rfl, ?_, ?_⟩
    · intro hzero
      simp [hzero, Change.tenure]
    · intro hpos
      obtain ⟨newer, hnewer, htenure⟩ := tenure_of_newer hpos hindex change
      refine ⟨newer, _, hnewer, htenure, rfl, ?_⟩
      intro hlater hearlier
      rw [Calendar.Instant.nanosSince_eq_sub hlater hearlier]
  · intro index sheet hsheet
    have hshown : (pager.showing log label).sheets[index]? = some sheet := by
      rw [← hopened]
      exact hsheet
    have hopen : 0 < (pager.showing log label).pageSize := hpositive
    obtain ⟨hpage, hfull, hsome, hmost⟩ := length_rows_sheets hopen rfl hshown
    refine ⟨hpage, ?_, ?_, ?_⟩
    · intro hnext
      rw [hcount] at hnext
      exact (hfull hnext).trans hsize
    · intro hlog
      apply hsome
      change 0 < log.reverse.length
      rwa [List.length_reverse]
    · exact hmost.trans (Nat.le_of_eq hsize)

theorem sheets_openLog_of_pair :
    readLog "[[\"a\",0],[\"b\",1500]]"
        = .ok [⟨"a", ⟨0, 0⟩⟩, ⟨"b", ⟨1, 500000000⟩⟩]
      ∧ ((closed 0).openLog "[[\"a\",0],[\"b\",1500]]" "x").1.sheets.length = 2 :=
  ⟨readLog_two, (@sheets_openLog (closed 0) 0 rfl _ _ readLog_two "x").1⟩

end Pager

end History

end AddressBoard

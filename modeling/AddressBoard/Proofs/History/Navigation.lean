import AddressBoard.Proofs.History.Moves

/-!
# Moving about in a history

Whatever is done to a pager, its page is one of its pages, the flags of a sheet say which ways lead
on from it, and there is a way back from every page that is turned. Opening a log forgets what was
shown before: two pagers of one page size that open the same text are the same from then on.
-/

namespace AddressBoard.History.Pager

/-- The page is one of the pages, and there is room on it. -/
structure OnPage (pager : Pager) : Prop where
  pageSize : 0 < pager.pageSize
  page_pos : 1 ≤ pager.page
  page_le : pager.page ≤ pager.totalPages

/-! ## Turning -/

section Turning

variable {pager turned : Pager}

theorem next?_eq_some_iff :
    pager.next? = some turned
      ↔ pager.page < pager.totalPages ∧ turned = { pager with page := pager.page + 1 } := by
  simp [next?, hasNext, eq_comm]

theorem previous?_eq_some_iff :
    pager.previous? = some turned
      ↔ 1 < pager.page ∧ turned = { pager with page := pager.page - 1 } := by
  simp [previous?, hasPrevious, eq_comm]

theorem isSome_next? (pager : Pager) : pager.next?.isSome = pager.hasNext := by
  unfold next?
  split <;> simp [*]

theorem isSome_previous? (pager : Pager) : pager.previous?.isSome = pager.hasPrevious := by
  unfold previous?
  split <;> simp [*]

theorem previous?_of_next? (hpos : 1 ≤ pager.page) (hnext : pager.next? = some turned) :
    turned.previous? = some pager := by
  obtain ⟨-, rfl⟩ := next?_eq_some_iff.mp hnext
  refine previous?_eq_some_iff.mpr ⟨?_, ?_⟩
  · exact Nat.lt_add_of_pos_left hpos
  · simp

theorem next?_of_previous? (hlast : pager.page ≤ pager.totalPages)
    (hprevious : pager.previous? = some turned) : turned.next? = some pager := by
  obtain ⟨hsecond, rfl⟩ := previous?_eq_some_iff.mp hprevious
  have hback : pager.page - 1 + 1 = pager.page := Nat.sub_add_cancel (Nat.le_of_lt hsecond)
  refine next?_eq_some_iff.mpr ⟨?_, ?_⟩
  · change pager.page - 1 < pager.totalPages
    omega
  · simp only [hback]

end Turning

/-! ## Every run stays on its pages -/

theorem onPage_closed (size : Nat) : (closed size).OnPage :=
  ⟨Nat.lt_of_lt_of_le Nat.one_pos (Nat.le_max_right size 1), Nat.le_refl 1, totalPages_pos _⟩

section OnPage

variable {pager : Pager}

theorem openLog_eq_showing (pager : Pager) (raw label : String) :
    ∃ log, (pager.openLog raw label).1 = pager.showing log label
      ∧ (readLog raw = .ok log ∨ log = [] ∧ ∃ fault, readLog raw = .error fault) := by
  unfold openLog
  cases hread : readLog raw with
  | ok log => exact ⟨log, rfl, Or.inl rfl⟩
  | error fault => exact ⟨[], rfl, Or.inr ⟨rfl, fault, rfl⟩⟩

theorem OnPage.showing (honPage : pager.OnPage) (log : List Change) (label : String) :
    (pager.showing log label).OnPage :=
  ⟨honPage.pageSize, Nat.le_refl 1, totalPages_pos _⟩

theorem OnPage.move (honPage : pager.OnPage) (move : Move) : (pager.move move).OnPage := by
  cases move with
  | openLog raw label =>
    obtain ⟨log, hshown, -⟩ := pager.openLog_eq_showing raw label
    rw [Pager.move, hshown]
    exact honPage.showing log label
  | next =>
    rw [Pager.move]
    cases hnext : pager.next? with
    | none => exact honPage
    | some turned =>
      obtain ⟨hbefore, rfl⟩ := next?_eq_some_iff.mp hnext
      exact ⟨honPage.pageSize, Nat.succ_pos _, hbefore⟩
  | previous =>
    rw [Pager.move]
    cases hprevious : pager.previous? with
    | none => exact honPage
    | some turned =>
      obtain ⟨hsecond, rfl⟩ := previous?_eq_some_iff.mp hprevious
      exact ⟨honPage.pageSize, Nat.le_sub_one_of_lt hsecond,
        (Nat.sub_le _ 1).trans honPage.page_le⟩
  | close => exact ⟨honPage.pageSize, honPage.page_pos, honPage.page_le⟩

theorem OnPage.run (honPage : pager.OnPage) (moves : List Move) : (pager.run moves).OnPage := by
  induction moves generalizing pager with
  | nil => exact honPage
  | cons move moves ih => exact ih (honPage.move move)

/-! ## What a page shows -/

theorem OnPage.hasPrevious_iff (honPage : pager.OnPage) :
    pager.hasPrevious = true ↔ 0 < pager.start := by
  have hsize := honPage.pageSize
  rw [hasPrevious, decide_eq_true_iff, start, Nat.mul_pos_iff_of_pos_right hsize]
  omega

/-- There is a next page exactly if the present one does not reach the oldest change. -/
theorem OnPage.hasNext_iff (honPage : pager.OnPage) :
    pager.hasNext = true ↔ pager.start + pager.pageSize < pager.changes.length := by
  have hend : pager.start + pager.pageSize = pager.page * pager.pageSize := by
    rw [start, ← Nat.succ_mul, Nat.succ_eq_add_one, Nat.sub_add_cancel honPage.page_pos]
  rw [hasNext, decide_eq_true_iff, hend]
  constructor
  · exact mul_pageSize_lt honPage.page_pos
  · intro hmore
    have hall := length_le_mul_pageSize honPage.pageSize
    exact Nat.lt_of_mul_lt_mul_right (Nat.lt_of_lt_of_le hmore hall)

theorem OnPage.start_lt (honPage : pager.OnPage) (hsome : 0 < pager.changes.length) :
    pager.start < pager.changes.length := by
  by_cases hfirst : pager.page = 1
  · rw [start, hfirst, Nat.sub_self, Nat.zero_mul]
    exact hsome
  · have hpos := honPage.page_pos
    have hlast := honPage.page_le
    exact mul_pageSize_lt (by omega) (by omega)

theorem OnPage.rows_eq_nil_iff (honPage : pager.OnPage) :
    pager.rows = [] ↔ pager.changes = [] := by
  have hsize := honPage.pageSize
  rw [← List.length_eq_zero_iff, ← List.length_eq_zero_iff, length_rows]
  constructor
  · intro hnone
    by_contra hsome
    have hstart := honPage.start_lt (Nat.pos_of_ne_zero hsome)
    omega
  · intro hnone
    omega

end OnPage

/-! ## Opening forgets -/

theorem pageSize_move (pager : Pager) (move : Move) :
    (pager.move move).pageSize = pager.pageSize := by
  cases move with
  | openLog raw label =>
    obtain ⟨log, hshown, -⟩ := pager.openLog_eq_showing raw label
    rw [Pager.move, hshown]
    rfl
  | next =>
    rw [Pager.move, next?]
    split <;> rfl
  | previous =>
    rw [Pager.move, previous?]
    split <;> rfl
  | close => rfl

theorem pageSize_run (pager : Pager) (moves : List Move) :
    (pager.run moves).pageSize = pager.pageSize := by
  induction moves generalizing pager with
  | nil => rfl
  | cons move moves ih => exact (ih (pager.move move)).trans (pager.pageSize_move move)

theorem openLog_eq_of_pageSize {first second : Pager} (hsize : first.pageSize = second.pageSize)
    (raw label : String) : first.openLog raw label = second.openLog raw label := by
  have hshowing : ∀ log, first.showing log label = second.showing log label := by
    intro log
    simp only [showing, hsize]
  unfold openLog
  split <;> simp only [hshowing]

theorem totalPages_of_empty {pager : Pager} (hempty : pager.changes = []) :
    pager.totalPages = 1 := by
  have hnone : (pager.pageSize - 1) / pager.pageSize = 0 := by
    by_cases hsize : pager.pageSize = 0
    · rw [hsize, Nat.div_zero]
    · exact Nat.div_eq_of_lt (Nat.sub_one_lt hsize)
  rw [totalPages, hempty, List.length_nil, Nat.zero_add, hnone]
  rfl

/-- **A pager stays on its pages and forgets what it showed.** After any run the page is one of the
pages; the flags of the sheet say which ways lead on, which is where there are changes left; a page
that is turned can be turned back, and a way that does not lead on changes nothing; only an empty
history has a page without rows; and what is seen after a log is opened does not depend on anything
that was done before, also if the log cannot be read. -/
theorem navigation_of_run (size : Nat) (moves : List Move) :
    let pager := (closed size).run moves
    let sheet := pager.sheet
    (1 ≤ sheet.page ∧ sheet.page = pager.page ∧ sheet.page ≤ sheet.totalPages)
      ∧ (pager.next?.isSome = sheet.hasNext ∧ pager.previous?.isSome = sheet.hasPrevious)
      ∧ ((sheet.hasNext = true ↔ pager.start + pager.pageSize < pager.changes.length)
          ∧ (sheet.hasPrevious = true ↔ 0 < pager.start))
      ∧ (∀ turned, pager.next? = some turned →
          turned.page = pager.page + 1 ∧ turned.previous? = some pager)
      ∧ (∀ turned, pager.previous? = some turned →
          turned.page + 1 = pager.page ∧ turned.next? = some pager)
      ∧ ((pager.next? = none → pager.move .next = pager)
          ∧ (pager.previous? = none → pager.move .previous = pager))
      ∧ (sheet.rows = [] ↔ pager.changes = [])
      ∧ pager.move .close = { pager with isOpen := false }
      ∧ ∀ (others : List Move) (raw label : String) (later : List Move),
          let opened := pager.move (.openLog raw label)
          let other := ((closed size).run others).move (.openLog raw label)
          (∀ fault, readLog raw = .error fault →
              opened.changes = [] ∧ opened.page = 1 ∧ opened.totalPages = 1
                ∧ opened.isOpen = true)
            ∧ ∀ count, let seen := opened.run (later.take count)
                let seenThere := other.run (later.take count)
                seen.sheet = seenThere.sheet ∧ seen.isOpen = seenThere.isOpen := by
  intro pager sheet
  have honPage : pager.OnPage := (onPage_closed size).run moves
  refine ⟨⟨honPage.page_pos, rfl, honPage.page_le⟩, ⟨pager.isSome_next?, pager.isSome_previous?⟩,
    ⟨honPage.hasNext_iff, honPage.hasPrevious_iff⟩, ?_, ?_, ⟨?_, ?_⟩, honPage.rows_eq_nil_iff, rfl,
    ?_⟩
  · intro turned hnext
    refine ⟨?_, previous?_of_next? honPage.page_pos hnext⟩
    obtain ⟨-, rfl⟩ := next?_eq_some_iff.mp hnext
    rfl
  · intro turned hprevious
    refine ⟨?_, next?_of_previous? honPage.page_le hprevious⟩
    obtain ⟨hsecond, rfl⟩ := previous?_eq_some_iff.mp hprevious
    exact Nat.sub_add_cancel (Nat.le_of_lt hsecond)
  · intro hnone
    rw [move, hnone, Option.getD_none]
  · intro hnone
    rw [move, hnone, Option.getD_none]
  · intro others raw label later opened other
    refine ⟨?_, ?_⟩
    · intro fault hread
      have hempty : opened = pager.showing [] label := by
        change (pager.openLog raw label).1 = _
        rw [openLog, hread]
      rw [hempty]
      exact ⟨rfl, rfl, totalPages_of_empty rfl, rfl⟩
    · intro count seen seenThere
      have hsame : opened = other := by
        have hsize : pager.pageSize = ((closed size).run others).pageSize := by
          rw [pageSize_run, pageSize_run]
        change (pager.openLog raw label).1 = (((closed size).run others).openLog raw label).1
        rw [openLog_eq_of_pageSize hsize]
      have hseen : seen = seenThere := congrArg (run (later.take count)) hsame
      rw [hseen]
      exact ⟨rfl, rfl⟩

/-- Two changes on pages of one row. From the second page the way leads back, and a text that cannot
be read empties the history whatever was shown. -/
theorem navigation_of_run_of_pair :
    let moves : List Move := [.openLog "[[\"a\",0],[\"b\",1500]]" "x", .next]
    let pager := (closed 0).run moves
    ∃ first, pager.previous? = some first ∧ first.next? = some pager
      ∧ pager.next? = none ∧ pager.move .next = pager
      ∧ (∃ fault, readLog "x" = .error fault)
      ∧ (pager.move (.openLog "x" "y")).totalPages = 1
      ∧ ((pager.move (.openLog "x" "y")).run [.previous, .close]).sheet
          = (((closed 0).run []).move (.openLog "x" "y") |>.run [.previous, .close]).sheet := by
  intro moves pager
  obtain ⟨fault, hfault⟩ : ∃ fault, readLog "x" = .error fault := ⟨_, rfl⟩
  have hpager : pager = ⟨[⟨"b", ⟨1, 500000000⟩⟩, ⟨"a", ⟨0, 0⟩⟩], "x", 2, 1, true⟩ := by
    simp [pager, moves, run, move, openLog, readLog_two, showing, closed, next?, hasNext,
      totalPages]
  have hprevious : pager.previous?
      = some ⟨[⟨"b", ⟨1, 500000000⟩⟩, ⟨"a", ⟨0, 0⟩⟩], "x", 1, 1, true⟩ := by
    rw [hpager]
    rfl
  have hnext : pager.next? = none := by
    rw [hpager]
    rfl
  obtain ⟨-, -, -, -, hback, ⟨hlast, -⟩, -, -, hopened⟩ := navigation_of_run 0 moves
  obtain ⟨hempty, hsame⟩ := hopened [] "x" "y" [.previous, .close]
  exact ⟨_, hprevious, (hback _ hprevious).2, hnext, hlast hnext, ⟨fault, hfault⟩,
    (hempty fault hfault).2.2.1, (hsame 2).1⟩

end AddressBoard.History.Pager

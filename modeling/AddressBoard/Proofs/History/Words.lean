import AddressBoard.Proofs.History.Navigation
import Mathlib.Algebra.Group.Nat.Defs

/-!
# Pagers in machine words

A machine counts pages and rows in unsigned words, where a sum or a product can be too large and a
difference can fall below zero. The operations below are those of a pager with every result checked,
and with every change looked up at its index. None of the checks fails: a page beyond the first is
there only if a page is smaller than the log, so the end of a page is less than twice the log.
-/

namespace AddressBoard.History

/-! ## Unsigned words -/

namespace Word

/-- A number that fits in a word of so many bits. -/
def fit? (bits number : Nat) : Option Nat := if number < 2 ^ bits then some number else none

def add? (bits first second : Nat) : Option Nat := fit? bits (first + second)

def mul? (bits first second : Nat) : Option Nat := fit? bits (first * second)

def sub? (first second : Nat) : Option Nat :=
  if second ≤ first then some (first - second) else none

/-- The quotient and the remainder. -/
def divMod? (first second : Nat) : Option (Nat × Nat) :=
  if second = 0 then none else some (first / second, first % second)

theorem fit?_of_lt {bits number : Nat} (hfits : number < 2 ^ bits) :
    fit? bits number = some number :=
  if_pos hfits

end Word

/-! ## The operations of a pager -/

namespace Pager

/-- The number of pages: the full ones, and one for the changes that are left over. -/
def totalPagesIn? (bits : Nat) (pager : Pager) : Option Nat := do
  let (full, left) ← Word.divMod? pager.changes.length pager.pageSize
  let pages ← if 0 < left then Word.add? bits full 1 else some full
  return max pages 1

def moveIn? (bits : Nat) (pager : Pager) : Move → Option Pager
  | .openLog raw label => some (pager.openLog raw label).1
  | .next => do
    let totalPages ← pager.totalPagesIn? bits
    if totalPages ≤ pager.page then return pager
    let page ← Word.add? bits pager.page 1
    return { pager with page }
  | .previous =>
    if pager.page ≤ 1 then some pager
    else do
      let page ← Word.sub? pager.page 1
      return { pager with page }
  | .close => some pager.close

def runIn? (bits : Nat) (moves : List Move) (pager : Pager) : Option Pager :=
  moves.foldlM (moveIn? bits) pager

/-- The tenure of the change at an index, which the change before it ended. -/
def tenureIn? (changes : List Change) (index : Nat) (change : Change) : Option Tenure :=
  if index = 0 then some .ongoing
  else do
    let before ← Word.sub? index 1
    let newer ← changes[before]?
    return .lasted (newer.time.millisSince change.time)

def entryIn? (bits : Nat) (changes : List Change) (index : Nat) : Option Entry := do
  let change ← changes[index]?
  let tenure ← tenureIn? changes index change
  let place ← Word.add? bits index 1
  return { place, address := change.address, time := change.time, tenure }

/-- The sheet of the present page, row by row from the first index to the last. -/
def sheetIn? (bits : Nat) (pager : Pager) : Option Sheet := do
  let before ← Word.sub? pager.page 1
  let start ← Word.mul? bits before pager.pageSize
  let behind ← Word.add? bits start pager.pageSize
  let stop := min behind pager.changes.length
  let rows ← (List.range' start (stop - start)).mapM (entryIn? bits pager.changes)
  let totalPages ← pager.totalPagesIn? bits
  return {
    title := "IP History: " ++ pager.label
    page := pager.page
    totalPages
    rows
    hasPrevious := 1 < pager.page
    hasNext := pager.page < totalPages }

/-! ## Pagers that fit -/

/-- Every page but the last takes up at least one change. -/
theorem OnPage.totalPages_le {pager : Pager} (honPage : pager.OnPage) :
    pager.totalPages ≤ max 1 pager.changes.length := by
  by_cases hone : pager.totalPages ≤ 1
  · omega
  · have hbefore : (pager.totalPages - 1) * pager.pageSize < pager.changes.length :=
      mul_pageSize_lt (by omega) (by omega)
    have hrows : pager.totalPages - 1 ≤ (pager.totalPages - 1) * pager.pageSize :=
      Nat.le_mul_of_pos_right _ honPage.pageSize
    omega

/-- The page size fits in a word, and the log in half of the words. -/
structure Fits (bits : Nat) (pager : Pager) : Prop extends OnPage pager where
  pageSize_lt : pager.pageSize < 2 ^ bits
  length_lt : pager.changes.length < 2 ^ (bits - 1)

section Fits

variable {bits : Nat} (hbits : 2 ≤ bits) {pager : Pager}

/-- The logs that moves open are of lengths that fit. -/
def LogsFit (bits : Nat) (moves : List Move) : Prop :=
  ∀ raw label log, .openLog raw label ∈ moves → readLog raw = .ok log →
    log.length < 2 ^ (bits - 1)

include hbits in
theorem fits_closed {size : Nat} (hsize : size < 2 ^ bits) : Fits bits (closed size) := by
  refine ⟨onPage_closed size, ?_, Nat.two_pow_pos _⟩
  have hword : 1 < 2 ^ bits := Nat.one_lt_two_pow (by omega)
  exact Nat.max_lt.mpr ⟨hsize, hword⟩

theorem fits_move (hfits : Fits bits pager) {move : Move} (hlogs : LogsFit bits [move]) :
    Fits bits (pager.move move) := by
  refine ⟨hfits.toOnPage.move move, ?_, ?_⟩
  · rw [pageSize_move]
    exact hfits.pageSize_lt
  · cases move with
    | openLog raw label =>
      obtain ⟨log, hshown, hread⟩ := pager.openLog_eq_showing raw label
      rw [Pager.move, hshown, showing, List.length_reverse]
      rcases hread with hread | ⟨rfl, -⟩
      · exact hlogs raw label log (List.mem_singleton_self _) hread
      · exact Nat.two_pow_pos _
    | next =>
      rw [changes_next]
      exact hfits.length_lt
    | previous =>
      rw [changes_previous]
      exact hfits.length_lt
    | close => exact hfits.length_lt

theorem logsFit_cons {move : Move} {moves : List Move} :
    LogsFit bits (move :: moves) ↔ LogsFit bits [move] ∧ LogsFit bits moves := by
  unfold LogsFit
  simp only [List.mem_cons, List.not_mem_nil, or_false]
  constructor
  · intro hlogs
    exact ⟨fun raw label log hmove => hlogs raw label log (Or.inl hmove),
      fun raw label log hmem => hlogs raw label log (Or.inr hmem)⟩
  · rintro ⟨hfirst, hothers⟩ raw label log (hmove | hmem)
    · exact hfirst raw label log hmove
    · exact hothers raw label log hmem

theorem fits_run (hfits : Fits bits pager) {moves : List Move} (hlogs : LogsFit bits moves) :
    Fits bits (pager.run moves) := by
  induction moves generalizing pager with
  | nil => exact hfits
  | cons move moves ih =>
    obtain ⟨hfirst, hothers⟩ := logsFit_cons.mp hlogs
    exact ih (fits_move hfits hfirst) hothers

include hbits

theorem two_mul_half : 2 * 2 ^ (bits - 1) = 2 ^ bits := by
  rw [← Nat.pow_succ', Nat.succ_eq_add_one, Nat.sub_one_add_one (by omega)]

/-- Pages beyond the first are there only if a page is smaller than the log. -/
theorem Fits.stop_lt (hfits : Fits bits pager) : pager.start + pager.pageSize < 2 ^ bits := by
  have hsize := hfits.pageSize_lt
  have hlength := hfits.length_lt
  have hhalf := two_mul_half hbits
  have hpos := hfits.page_pos
  by_cases hfirst : pager.page = 1
  · rw [start, hfirst, Nat.sub_self, Nat.zero_mul, Nat.zero_add]
    exact hsize
  · have hlast := hfits.page_le
    have hbefore : (pager.page - 1) * pager.pageSize < pager.changes.length :=
      mul_pageSize_lt (by omega) (by omega)
    have hpage : pager.pageSize ≤ (pager.page - 1) * pager.pageSize :=
      Nat.le_mul_of_pos_left _ (by omega)
    rw [start]
    omega

theorem two_le_half : 2 ≤ 2 ^ (bits - 1) := Nat.le_self_pow (by omega) 2

theorem Fits.fullPages_lt (hfits : Fits bits pager) :
    pager.changes.length / pager.pageSize + 1 < 2 ^ bits := by
  have hlength := hfits.length_lt
  have hhalf := two_mul_half hbits
  have htwo := two_le_half hbits
  have hquotient : pager.changes.length / pager.pageSize ≤ pager.changes.length :=
    Nat.div_le_self _ _
  omega

theorem Fits.totalPages_lt (hfits : Fits bits pager) : pager.totalPages + 1 < 2 ^ bits := by
  have hlength := hfits.length_lt
  have hhalf := two_mul_half hbits
  have htwo := two_le_half hbits
  have hpages := hfits.totalPages_le
  omega

end Fits

/-! ## No check fails -/

/-- The full parts, and one for what is left over. -/
theorem ceil_eq {size : Nat} (hsize : 0 < size) (length : Nat) :
    (length + size - 1) / size
      = if 0 < length % size then length / size + 1 else length / size := by
  have hlength := Nat.div_add_mod length size
  have hrest := Nat.mod_lt length hsize
  rw [Nat.mul_comm] at hlength
  split
  · apply Nat.div_eq_of_lt_le
    · rw [Nat.succ_mul]
      omega
    · rw [Nat.succ_mul, Nat.succ_mul]
      omega
  · apply Nat.div_eq_of_lt_le
    · omega
    · rw [Nat.succ_mul]
      omega

theorem totalPagesIn?_eq {bits : Nat} (hbits : 2 ≤ bits) {pager : Pager}
    (hfits : Fits bits pager) : pager.totalPagesIn? bits = some pager.totalPages := by
  have hsize := hfits.pageSize
  rw [totalPagesIn?, Word.divMod?, if_neg (Nat.ne_of_gt hsize), totalPages, ceil_eq hsize,
    Nat.max_comm]
  simp only [Option.bind_eq_bind, Option.bind_some]
  split
  · rw [Word.add?, Word.fit?_of_lt (hfits.fullPages_lt hbits)]
    rfl
  · rfl

theorem mapM_range'_of_getElem? {Element : Type} (elements : List Element)
    {read? : Nat → Option Element} {start count : Nat} (hend : start + count ≤ elements.length)
    (hread : ∀ index, start ≤ index → index < start + count →
      read? index = elements[index]?) :
    (List.range' start count).mapM read? = some ((elements.drop start).take count) := by
  induction count generalizing start with
  | zero => simp
  | succ count ih =>
    have hfirst : read? start = some elements[start] :=
      (hread start (Nat.le_refl start) (by omega)).trans (List.getElem?_eq_getElem (by omega))
    have hothers := @ih (start + 1) (by omega) fun index hfrom hto =>
      hread index (by omega) (by omega)
    rw [List.range'_succ, List.mapM_cons, hfirst, hothers,
      List.drop_eq_getElem_cons (show start < elements.length by omega), List.take_succ_cons]
    rfl

theorem tenureIn?_eq {changes : List Change} {index : Nat} (hindex : index < changes.length)
    (change : Change) :
    tenureIn? changes index change
      = some (change.tenure (if index = 0 then none else changes[index - 1]?)) := by
  unfold tenureIn?
  by_cases hnewest : index = 0
  · rw [if_pos hnewest, if_pos hnewest]
    rfl
  · have hbefore : Word.sub? index 1 = some (index - 1) := if_pos (Nat.pos_of_ne_zero hnewest)
    have hnewer : changes[index - 1]? = some changes[index - 1] :=
      List.getElem?_eq_getElem (by omega)
    rw [if_neg hnewest, if_neg hnewest, hbefore, Option.bind_eq_bind, Option.bind_some, hnewer]
    rfl

theorem entryIn?_eq {bits : Nat} {changes : List Change} {index : Nat}
    (hindex : index < changes.length) (hplace : index + 1 < 2 ^ bits) :
    entryIn? bits changes index = (entries changes)[index]? := by
  have hchange : changes[index]? = some changes[index] := List.getElem?_eq_getElem hindex
  rw [entries, getElem?_entriesFrom, hchange, Option.map_some, entryIn?, hchange]
  simp only [Option.bind_eq_bind, Option.bind_some, tenureIn?_eq hindex, Word.add?,
    Word.fit?_of_lt hplace, Nat.add_comm 1 index]
  rfl

section Words

variable {bits : Nat} (hbits : 2 ≤ bits) {pager : Pager}
include hbits

/-- The indices from the start of the page to its end are those of its rows. -/
theorem rowsIn?_eq (hfits : Fits bits pager) :
    (List.range' pager.start (min (pager.start + pager.pageSize) pager.changes.length
        - pager.start)).mapM (entryIn? bits pager.changes)
      = some pager.rows := by
  have hlength : (entries pager.changes).length = pager.changes.length :=
    length_entriesFrom 1 none pager.changes
  have hshort := hfits.length_lt
  have hhalf := two_mul_half hbits
  by_cases hempty : pager.changes.length ≤ pager.start
  · have hnone : min (pager.start + pager.pageSize) pager.changes.length - pager.start = 0 := by
      omega
    have hrows : pager.rows = [] := by
      rw [← List.length_eq_zero_iff, length_rows]
      omega
    rw [hnone, hrows]
    rfl
  · rw [mapM_range'_of_getElem? (entries pager.changes) (by omega)]
    · refine congrArg some (List.take_eq_take_iff.mpr ?_)
      rw [List.length_drop, hlength]
      omega
    · intro index hfrom hto
      exact entryIn?_eq (by omega) (by omega)

theorem sheetIn?_eq (hfits : Fits bits pager) : pager.sheetIn? bits = some pager.sheet := by
  have hbefore : Word.sub? pager.page 1 = some (pager.page - 1) := if_pos hfits.page_pos
  have hstop := hfits.stop_lt hbits
  have hstart : Word.mul? bits (pager.page - 1) pager.pageSize = some pager.start :=
    Word.fit?_of_lt (Nat.lt_of_le_of_lt (Nat.le_add_right _ _) hstop)
  have hbehind : Word.add? bits pager.start pager.pageSize
      = some (pager.start + pager.pageSize) := Word.fit?_of_lt hstop
  simp only [sheetIn?, hbefore, hstart, hbehind, Option.bind_eq_bind, Option.bind_some,
    rowsIn?_eq hbits hfits, totalPagesIn?_eq hbits hfits]
  rfl

theorem moveIn?_eq (hfits : Fits bits pager) (move : Move) :
    pager.moveIn? bits move = some (pager.move move) := by
  cases move with
  | openLog raw label => rfl
  | next =>
    have hpage : Word.add? bits pager.page 1 = some (pager.page + 1) := by
      have hlast := hfits.page_le
      have htotal := hfits.totalPages_lt hbits
      exact Word.fit?_of_lt (by omega)
    rw [moveIn?, totalPagesIn?_eq hbits hfits, Pager.move]
    simp only [Option.bind_eq_bind, Option.bind_some, hpage]
    split
    · next hlast =>
      rw [next?_of_le hlast]
      rfl
    · next hmore =>
      rw [next?_of_lt (Nat.lt_of_not_le hmore)]
      rfl
  | previous =>
    rw [moveIn?, Pager.move, previous?]
    split
    · next hfirst =>
      have hnone : pager.hasPrevious = false := decide_eq_false (Nat.not_lt_of_le hfirst)
      rw [hnone]
      rfl
    · next hlater =>
      have hsome : pager.hasPrevious = true := decide_eq_true (Nat.lt_of_not_le hlater)
      have hpage : Word.sub? pager.page 1 = some (pager.page - 1) := if_pos hfits.page_pos
      rw [hsome, hpage]
      rfl
  | close => rfl

theorem runIn?_eq (hfits : Fits bits pager) {moves : List Move} (hlogs : LogsFit bits moves) :
    pager.runIn? bits moves = some (pager.run moves) := by
  induction moves generalizing pager with
  | nil => rfl
  | cons move moves ih =>
    obtain ⟨hfirst, hothers⟩ := logsFit_cons.mp hlogs
    have hlater := ih (fits_move hfits hfirst) hothers
    rw [runIn?, List.foldlM_cons, moveIn?_eq hbits hfits]
    exact hlater

end Words

/-- **No page leaves the machine words.** With words of 2 bits or more, a page size that fits in a
word and logs of fewer changes than half of the words, no run of a pager and no sheet meets a result
that is too large, a difference below zero, a division by zero or an index without a change. -/
theorem words_of_run {bits size : Nat} (hbits : 2 ≤ bits) (hsize : size < 2 ^ bits)
    {moves : List Move} (hlogs : LogsFit bits moves) :
    let pager := (closed size).run moves
    (closed size).runIn? bits moves = some pager
      ∧ (∀ move, pager.moveIn? bits move = some (pager.move move))
      ∧ pager.sheetIn? bits = some pager.sheet
      ∧ (0 < pager.pageSize ∧ pager.changes.length / pager.pageSize + 1 < 2 ^ bits)
      ∧ (1 ≤ pager.page ∧ pager.page + 1 < 2 ^ bits)
      ∧ (pager.page - 1) * pager.pageSize + pager.pageSize < 2 ^ bits
      ∧ ∀ index, pager.start ≤ index → index < pager.start + pager.rows.length →
          index < pager.changes.length ∧ index - 1 < pager.changes.length
            ∧ index + 1 < 2 ^ bits := by
  intro pager
  have hclosed : Fits bits (closed size) := fits_closed hbits hsize
  have hfits : Fits bits pager := fits_run hclosed hlogs
  have hlength := hfits.length_lt
  have hhalf := two_mul_half hbits
  have hpage : pager.page + 1 < 2 ^ bits :=
    Nat.lt_of_le_of_lt (Nat.succ_le_succ hfits.page_le) (hfits.totalPages_lt hbits)
  refine ⟨runIn?_eq hbits hclosed hlogs, moveIn?_eq hbits hfits, sheetIn?_eq hbits hfits,
    ⟨hfits.pageSize, hfits.fullPages_lt hbits⟩, ⟨hfits.page_pos, hpage⟩, hfits.stop_lt hbits, ?_⟩
  intro index hfrom hto
  rw [length_rows] at hto
  omega

/-- The largest page size there is, on which the sum of start and page size is the greatest word. -/
theorem words_of_run_of_greatest :
    let moves : List Move := [.openLog "[[\"a\",0],[\"b\",1500]]" "x", .next]
    let pager := (closed (2 ^ 64 - 1)).run moves
    2 ^ 64 - 1 < 2 ^ 64 ∧ LogsFit 64 moves ∧ pager.sheetIn? 64 = some pager.sheet
      ∧ (pager.page - 1) * pager.pageSize + pager.pageSize < 2 ^ 64 := by
  intro moves pager
  have hsize : 2 ^ 64 - 1 < 2 ^ 64 := by decide
  have hlogs : LogsFit 64 moves := by
    intro raw label log hmem hlog
    simp only [moves, List.mem_cons, Move.openLog.injEq, reduceCtorEq, List.not_mem_nil,
      or_false] at hmem
    obtain ⟨rfl, rfl⟩ := hmem
    rw [readLog_two] at hlog
    rw [← Except.ok.inj hlog]
    decide
  obtain ⟨-, -, hsheet, -, -, hstop, -⟩ := words_of_run (by decide) hsize hlogs
  exact ⟨hsize, hlogs, hsheet, hstop⟩

end Pager

end AddressBoard.History

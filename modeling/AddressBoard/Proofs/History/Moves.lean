import AddressBoard.Proofs.History.Paging

/-!
# Runs of a pager

What is done to a pager: logs are opened, pages are turned, and it is closed. Whatever is done in
whatever order, the changes that it holds are those of a log that was opened, and on its page just
the newest change of the log has a tenure that is not over.
-/

namespace AddressBoard.History

inductive Move where
  | openLog (raw label : String)
  | next
  | previous
  | close
deriving DecidableEq, Repr

namespace Pager

/-- Turning to a page that is not there does nothing. -/
def move (pager : Pager) : Move → Pager
  | .openLog raw label => (pager.openLog raw label).1
  | .next => pager.next?.getD pager
  | .previous => pager.previous?.getD pager
  | .close => pager.close

def run (moves : List Move) (pager : Pager) : Pager := moves.foldl move pager

/-! ## Where the changes are from -/

/-- The change is in a log that a move opens. -/
def Opened (moves : List Move) (change : Change) : Prop :=
  ∃ raw label log, .openLog raw label ∈ moves ∧ readLog raw = .ok log ∧ change ∈ log

theorem Opened.mono {moves others : List Move} (hsubset : moves ⊆ others) {change : Change}
    (hopened : Opened moves change) : Opened others change := by
  obtain ⟨raw, label, log, hmove, hread, hlog⟩ := hopened
  exact ⟨raw, label, log, hsubset hmove, hread, hlog⟩

theorem changes_next (pager : Pager) : (pager.move .next).changes = pager.changes := by
  rw [move, next?]
  split <;> rfl

theorem changes_previous (pager : Pager) : (pager.move .previous).changes = pager.changes := by
  rw [move, previous?]
  split <;> rfl

theorem mem_changes_openLog {pager : Pager} {raw label : String} {change : Change}
    (hmem : change ∈ (pager.openLog raw label).1.changes) :
    ∃ log, readLog raw = .ok log ∧ change ∈ log := by
  unfold openLog at hmem
  cases hread : readLog raw with
  | ok log =>
    rw [hread] at hmem
    exact ⟨log, rfl, List.mem_reverse.mp hmem⟩
  | error fault =>
    rw [hread] at hmem
    cases hmem

theorem mem_changes_move {pager : Pager} {move : Move} {change : Change}
    (hmem : change ∈ (pager.move move).changes) :
    Opened [move] change ∨ change ∈ pager.changes := by
  cases move with
  | openLog raw label =>
    obtain ⟨log, hread, hlog⟩ := mem_changes_openLog hmem
    exact Or.inl ⟨raw, label, log, List.mem_singleton_self _, hread, hlog⟩
  | next => exact Or.inr (pager.changes_next ▸ hmem)
  | previous => exact Or.inr (pager.changes_previous ▸ hmem)
  | close => exact Or.inr hmem

theorem mem_changes_run {pager : Pager} {moves : List Move} {change : Change}
    (hmem : change ∈ (pager.run moves).changes) :
    Opened moves change ∨ change ∈ pager.changes := by
  induction moves generalizing pager with
  | nil => exact Or.inr hmem
  | cons first moves ih =>
    rcases ih hmem with hlater | hkept
    · exact Or.inl (hlater.mono (List.subset_cons_self first moves))
    · rcases mem_changes_move hkept with hfirst | hbefore
      · exact Or.inl (hfirst.mono (by simp))
      · exact Or.inr hbefore

/-! ## The rows of a page -/

section Rows

variable {pager : Pager} {index : Nat} {entry : Entry}

theorem getElem?_rows (hrow : pager.rows[index]? = some entry) :
    ∃ change, pager.changes[pager.start + index]? = some change
      ∧ entry =
        { place := 1 + (pager.start + index)
          address := change.address
          time := change.time
          tenure := change.tenure
            (if pager.start + index = 0 then none
              else pager.changes[pager.start + index - 1]?) } := by
  rw [rows, List.getElem?_take, entries] at hrow
  split at hrow
  · rw [List.getElem?_drop, getElem?_entriesFrom] at hrow
    obtain ⟨change, hchange, hentry⟩ := Option.map_eq_some_iff.mp hrow
    exact ⟨change, hchange, hentry.symm⟩
  · cases hrow

theorem place_of_row (hrow : pager.rows[index]? = some entry) :
    entry.place = 1 + (pager.start + index) := by
  obtain ⟨change, -, rfl⟩ := getElem?_rows hrow
  rfl

/-- Only the newest change is not over. -/
theorem tenure_of_row (hrow : pager.rows[index]? = some entry) :
    entry.tenure = .ongoing ↔ entry.place = 1 := by
  obtain ⟨change, hchange, rfl⟩ := getElem?_rows hrow
  obtain ⟨hindex, -⟩ := List.getElem?_eq_some_iff.mp hchange
  by_cases hnewest : pager.start + index = 0
  · simp [hnewest, Change.tenure]
  · have hnewer : pager.changes[pager.start + index - 1]?
        = some pager.changes[pager.start + index - 1] := List.getElem?_eq_getElem (by omega)
    simp only [if_neg hnewest, hnewer, Change.tenure, reduceCtorEq, false_iff]
    omega

theorem mem_changes_of_row (hrow : entry ∈ pager.rows) :
    ∃ change ∈ pager.changes, entry.address = change.address := by
  obtain ⟨index, hindex⟩ := List.mem_iff_getElem?.mp hrow
  obtain ⟨change, hchange, rfl⟩ := getElem?_rows hindex
  exact ⟨change, List.mem_of_getElem? hchange, rfl⟩

end Rows

end Pager

end AddressBoard.History

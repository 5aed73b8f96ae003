import AddressBoard.Notice

/-!
# Settings

What is settled once when a page starts.
-/

namespace AddressBoard

structure Settings where
  storageKey : String
  choices : List Nat
  pageSize : Nat
deriving DecidableEq, Repr

namespace Settings

def standard : Settings :=
  { storageKey := "ddns-auto-refresh", choices := Refresh.Menu.standard, pageSize := 20 }

/-- The settings of a page that may name its own intervals. Bad ones are ignored with a warning. -/
def ofIntervals : Option String → Settings × Option Notice
  | none => (standard, none)
  | some text =>
    match Refresh.Menu.read text with
    | .ok choices => ({ standard with choices }, none)
    | .error fault => (standard, some (.menuIgnored fault))

/-- A page names its choices, and nothing else of its settings. -/
theorem ofIntervals_eq (intervals? : Option String) :
    ∃ choices, (ofIntervals intervals?).1 = { standard with choices } := by
  unfold ofIntervals
  split
  · exact ⟨standard.choices, rfl⟩
  · split
    · exact ⟨_, rfl⟩
    · exact ⟨standard.choices, rfl⟩

end Settings

end AddressBoard

import AddressBoard.History.Change
import AddressBoard.History.Span

/-!
# Entries

A log as it is shown: the newest change first, every change with its place in the whole log and with
how long its address was in use, which is until the next newer change.
-/

namespace AddressBoard.History

inductive Tenure where
  | ongoing
  | lasted (millis : Int)
deriving DecidableEq, Repr

def Tenure.text : Tenure → String
  | .ongoing => "Current"
  | .lasted millis => spanText millis

/-- One line of a shown log. Places are counted from 1. -/
structure Entry where
  place : Nat
  address : String
  time : Calendar.Instant
  tenure : Tenure
deriving DecidableEq, Repr

/-- The tenure that a newer change ended, if there is one. -/
def Change.tenure (change : Change) (newer? : Option Change) : Tenure :=
  match newer? with
  | none => .ongoing
  | some newer => .lasted (newer.time.millisSince change.time)

/-- The entries of changes from the newest to the oldest, the first of them at `place`. -/
def entriesFrom (place : Nat) (newer? : Option Change) : List Change → List Entry
  | [] => []
  | change :: older =>
    { place, address := change.address, time := change.time, tenure := change.tenure newer? }
      :: entriesFrom (place + 1) (some change) older

/-- The entries of all changes, which come in the order newest to oldest. -/
def entries (changes : List Change) : List Entry := entriesFrom 1 none changes

@[simp]
theorem length_entriesFrom (place : Nat) (newer? : Option Change) (changes : List Change) :
    (entriesFrom place newer? changes).length = changes.length := by
  induction changes generalizing place newer? with
  | nil => rfl
  | cons change older ih => simp [entriesFrom, ih]

end AddressBoard.History

import AddressBoard.History.LogFault
import AddressBoard.Refresh.Backend
import AddressBoard.Refresh.Menu

/-!
# Notices

What a page reports to its developer: news of its start, and warnings of what it went on without.
-/

namespace AddressBoard

inductive Notice where
  | rowsBound (count : Nat)
  | intervalRestored (seconds : Nat)
  | menuIgnored (fault : Refresh.MenuFault)
  | intervalUnsaved (fault : Refresh.StorageFault)
  | historyDiscarded (fault : History.LogFault)
deriving DecidableEq

def Notice.isWarning : Notice → Bool
  | .rowsBound _ => false
  | .intervalRestored _ => false
  | .menuIgnored _ => true
  | .intervalUnsaved _ => true
  | .historyDiscarded _ => true

/-- The attribute in which a page names its own intervals. -/
def intervalsAttribute : String := "data-refresh-intervals"

def Notice.text : Notice → String
  | .rowsBound count => s!"Bound history for {count} domain rows"
  | .intervalRestored seconds => s!"Auto-refresh restored at {seconds}s"
  | .menuIgnored fault => "Ignoring " ++ intervalsAttribute ++ ": " ++ fault.message
  | .intervalUnsaved fault => "Failed to persist auto-refresh interval: " ++ fault.message
  | .historyDiscarded fault => "Discarding unreadable history: " ++ fault.message

end AddressBoard

import AddressBoard.Refresh.Display

/-!
# Backends

All that refreshing a page does to the world around it is done by calls: to the store of
preferences, to two repeating timers, to the page and to what the page shows. A backend says what a
call does to its world and answers what is asked about it.
-/

namespace AddressBoard.Refresh

/-- The timers of a refreshed page: one reloads it, the other counts down. -/
inductive Timer where
  | reload
  | countdown
deriving DecidableEq, Repr

/-- Periods are in seconds. -/
inductive Call where
  | load (key : String)
  | save (key value : String)
  | schedule (timer : Timer) (seconds : Nat)
  | cancel (timer : Timer)
  | reload
  | display (display : Display)
  | select (seconds : Nat)
deriving DecidableEq, Repr

structure StorageFault where
  reason : String
deriving DecidableEq, Repr

def StorageFault.message (fault : StorageFault) : String := "Storage error: " ++ fault.reason

/-- A backend. A preference that cannot be read is as good as none. A fault in `saveFault?` is the
one that saving would meet; the call is then not performed. -/
structure Backend (World : Type) where
  isScheduled : World → Timer → Bool
  stored? : World → (key : String) → Option String
  saveFault? : World → Option StorageFault
  perform : World → Call → World

end AddressBoard.Refresh

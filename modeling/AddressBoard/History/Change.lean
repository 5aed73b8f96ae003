import AddressBoard.Calendar.Instant

/-!
# Changes

The history of a domain is the list of its changes: from which instant on it had which address.
-/

namespace AddressBoard.History

structure Change where
  address : String
  time : Calendar.Instant
deriving DecidableEq, Repr

end AddressBoard.History

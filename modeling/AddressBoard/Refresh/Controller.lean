import AddressBoard.Refresh.Display

/-!
# The controller

What refreshing remembers: the chosen interval, whether the page is visible, and how far the
countdown has come.
-/

namespace AddressBoard.Refresh

/-- Refreshing is off, runs, or waits for the page to become visible. -/
inductive Phase where
  | disabled
  | active
  | suspended
deriving DecidableEq, Repr

/-- The interval and what remains of it are in seconds; an interval of 0 means off. -/
structure Controller where
  key : String
  interval : Nat
  isVisible : Bool
  remaining : Nat
  phase : Phase
deriving DecidableEq, Repr

namespace Controller

/-- The controller of a page that has just been opened. -/
def fresh (key : String) (isVisible : Bool) : Controller :=
  { key, interval := 0, isVisible, remaining := 0, phase := .disabled }

def display (controller : Controller) : Display :=
  match controller.phase with
  | .disabled => .hidden
  | .suspended => .paused
  | .active => .remaining controller.remaining

/-- Starts a whole interval of the given length. -/
def withInterval (controller : Controller) (seconds : Nat) : Controller :=
  { controller with interval := seconds, remaining := seconds }

end Controller

end AddressBoard.Refresh

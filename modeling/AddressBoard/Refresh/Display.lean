import AddressBoard.Text.Numeral

/-!
# The display

What stands next to the refresh button: nothing, a word, or a countdown.
-/

namespace AddressBoard.Refresh

inductive Display where
  | hidden
  | paused
  | remaining (seconds : Nat)
deriving DecidableEq, Repr

/-- Minutes and seconds from one minute on, seconds alone below. -/
def countdownText (seconds : Nat) : String :=
  if 60 ≤ seconds then
    toString (seconds / 60) ++ ":" ++ String.ofList (Numeral.padded 2 (seconds % 60))
  else toString seconds ++ "s"

def Display.text : Display → String
  | .hidden => ""
  | .paused => "Paused"
  | .remaining seconds => countdownText seconds

def Display.isVisible : Display → Bool
  | .hidden => false
  | _ => true

def Display.isRunning : Display → Bool
  | .remaining _ => true
  | _ => false

end AddressBoard.Refresh

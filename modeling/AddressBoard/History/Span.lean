/-!
# Spans

How long an address was in use, in words: the largest unit that the span fills, and beside it what
is left of the span in the next smaller unit that matters. A month has 30 days and a year 365.
-/

namespace AddressBoard.History

inductive SpanUnit where
  | second
  | minute
  | hour
  | day
  | week
  | month
  | year
deriving DecidableEq, Repr

namespace SpanUnit

def seconds : SpanUnit → Nat
  | .second => 1
  | .minute => 60
  | .hour => 3600
  | .day => 86400
  | .week => 7 * 86400
  | .month => 30 * 86400
  | .year => 365 * 86400

def name : SpanUnit → String
  | .second => "second"
  | .minute => "minute"
  | .hour => "hour"
  | .day => "day"
  | .week => "week"
  | .month => "month"
  | .year => "year"

/-- The unit of what is left beside a count of this one. -/
def companion? : SpanUnit → Option SpanUnit
  | .second => none
  | .minute => none
  | .hour => some .minute
  | .day => some .hour
  | .week => some .day
  | .month => some .day
  | .year => some .month

/-- The units above the second, the largest first. -/
def descending : List SpanUnit := [.year, .month, .week, .day, .hour, .minute]

/-- The largest unit that a number of seconds fills, and the second if it fills none. -/
def leading (seconds : Nat) : SpanUnit :=
  (descending.find? fun unit => unit.seconds ≤ seconds).getD .second

end SpanUnit

structure Amount where
  count : Nat
  unit : SpanUnit
deriving DecidableEq, Repr

def Amount.text (amount : Amount) : String :=
  toString amount.count ++ " " ++ amount.unit.name ++ if amount.count = 1 then "" else "s"

/-- The amounts that stand for a number of seconds. -/
def amounts (seconds : Nat) : List Amount :=
  let unit := SpanUnit.leading seconds
  let left : List Amount := match unit.companion? with
    | none => []
    | some companion => [⟨seconds % unit.seconds / companion.seconds, companion⟩]
  ⟨seconds / unit.seconds, unit⟩ :: left.filter (0 < ·.count)

/-- The whole seconds of a span in milliseconds. A negative span counts as empty. -/
def spanSeconds (millis : Int) : Nat := millis.toNat / 1000

def spanText (millis : Int) : String :=
  " ".intercalate ((amounts (spanSeconds millis)).map Amount.text)

example : amounts 90061 = [⟨1, .day⟩, ⟨1, .hour⟩] := by decide
example : amounts (365 * 86400 - 1) = [⟨12, .month⟩, ⟨4, .day⟩] := by decide
example : amounts 0 = [⟨0, .second⟩] := by decide

end AddressBoard.History

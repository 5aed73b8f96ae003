/-!
# Shortest decimals

A binary number is named by every decimal that lies in its rounding interval: the reals that are
closer to it than to its neighbours, the two ends included when its significand is even. Among those
decimals the shortest one is chosen, and among the shortest ones the nearest.

All comparisons are of natural numbers, after both sides are multiplied by what makes them whole.
-/

namespace AddressBoard.Decimal

/-- The number `significand * 2 ^ exponent`. -/
structure Binary where
  significand : Nat
  exponent : Int
deriving DecidableEq, Repr

/-- The number `digits * 10 ^ exponent`. -/
structure Scientific where
  digits : Nat
  exponent : Int
deriving DecidableEq, Repr

namespace Binary

/-- The exponent of the numbers that are closest to zero. -/
def leastExponent : Int := -1074

/-- The least significand of a number that is not close to zero: it has 53 binary digits. -/
def leastSignificand : Nat := 4503599627370496

/-- The number without its sign that a finite float stands for. -/
def ofFloat (float : Float) : Binary :=
  let bits := float.toBits.toNat
  let fraction := bits % leastSignificand
  let exponent := bits / leastSignificand % 2048
  if exponent = 0 then ⟨fraction, leastExponent⟩
  else ⟨leastSignificand + fraction, leastExponent + exponent - 1⟩

/-- A fourth of a unit in the last place of `binary`, in steps that also count whole units of
`10 ^ exponent`. -/
def quarterSteps (binary : Binary) (exponent : Int) : Nat :=
  Nat.pow 2 (binary.exponent - 2).toNat * Nat.pow 10 (-exponent).toNat

/-- A unit of `10 ^ exponent` in the same steps. -/
def unitSteps (binary : Binary) (exponent : Int) : Nat :=
  Nat.pow 10 exponent.toNat * Nat.pow 2 (2 - binary.exponent).toNat

def steps (binary : Binary) (exponent : Int) : Nat :=
  4 * binary.significand * binary.quarterSteps exponent

/-- How many quarter units the rounding interval reaches down. It is half as wide where the next
number below has the next smaller exponent. -/
def quartersBelow (binary : Binary) : Nat :=
  if binary.significand = leastSignificand ∧ binary.exponent ≠ leastExponent then 1 else 2

/-- A decimal reads back as the number if it lies in its rounding interval. -/
def readsBack (binary : Binary) (decimal : Scientific) : Bool :=
  let position := decimal.digits * binary.unitSteps decimal.exponent
  let quarter := binary.quarterSteps decimal.exponent
  let low := binary.steps decimal.exponent - binary.quartersBelow * quarter
  let high := binary.steps decimal.exponent + 2 * quarter
  if binary.significand % 2 = 0 then low ≤ position ∧ position ≤ high
  else low < position ∧ position < high

def distance (binary : Binary) (decimal : Scientific) : Nat :=
  let position := decimal.digits * binary.unitSteps decimal.exponent
  let own := binary.steps decimal.exponent
  max own position - min own position

/-- The nearest decimal with this exponent that reads back; of two the one with even digits. -/
def onGrid? (binary : Binary) (exponent : Int) : Option Scientific :=
  let below : Scientific := ⟨binary.steps exponent / binary.unitSteps exponent, exponent⟩
  let above : Scientific := ⟨below.digits + 1, exponent⟩
  match binary.readsBack below, binary.readsBack above with
  | false, false => none
  | true, false => some below
  | false, true => some above
  | true, true =>
    if binary.distance below < binary.distance above then some below
    else if binary.distance above < binary.distance below then some above
    else if below.digits % 2 = 0 then some below
    else some above

/-- The exponent of the first decimal digit, which is found in the whole part of the number times
`10 ^ 400`: no float is so small that this part is zero. -/
def magnitude (binary : Binary) : Int :=
  (Nat.toDigits 10 (binary.steps (-400) / binary.unitSteps (-400))).length - 401

/-- The shortest decimal that reads back. Seventeen digits are enough for every float. -/
def shortest (binary : Binary) : Scientific :=
  ((List.range 17).findSome? fun (places : Nat) => binary.onGrid? (binary.magnitude - places)).getD
    ⟨0, 0⟩

example : shortest ⟨1, leastExponent⟩ = ⟨5, -324⟩ := by decide +kernel
example : shortest ⟨6755399441055744, -52⟩ = ⟨15, -1⟩ := by decide +kernel

end Binary

end AddressBoard.Decimal

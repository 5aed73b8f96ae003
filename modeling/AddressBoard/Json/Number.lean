import AddressBoard.Json.Fault
import AddressBoard.Json.Value

/-!
# Numbers

A number is read in two steps. Its `Lexeme` holds what is written; the lexeme then has a value.

The value of a float is not the nearest one to what is written: digits are taken into a significand
of 64 bits as long as they fit, and the rest of the number is one multiplication or division by a
power of ten.
-/

namespace AddressBoard.Json

/-- A number as it is written. There is no fraction if it has no digits. -/
structure Lexeme where
  isNegative : Bool
  whole : List Char
  fraction : List Char
  exponent? : Option (Bool × List Char)
deriving DecidableEq, Repr

/-! ## The written form -/

/-- One or more digits. Where the text ends instead, the reason is `atEnd`. -/
def digits (atEnd : Cause) (source : List Char) : Outcome Cause (List Char × List Char) :=
  match source.takeWhile Char.isDigit with
  | [] => .error ⟨if source = [] then atEnd else .badNumber, source, 1⟩
  | digits => .ok (digits, source.dropWhile Char.isDigit)

/-- A whole number, which begins with zero only if it is zero. -/
def whole (atEnd : Cause) (source : List Char) : Outcome Cause (List Char × List Char) :=
  match source with
  | '0' :: rest =>
    if rest.head?.any Char.isDigit then .error ⟨.badNumber, rest, 1⟩ else .ok (['0'], rest)
  | _ => digits atEnd source

def fraction (atEnd : Cause) (source : List Char) : Outcome Cause (List Char × List Char) :=
  match source with
  | '.' :: rest => digits atEnd rest
  | _ => .ok ([], source)

/-- The sign of an exponent, and whether it is a minus. -/
def exponentSign : List Char → Bool × List Char
  | '-' :: rest => (true, rest)
  | '+' :: rest => (false, rest)
  | source => (false, source)

def exponent (atEnd : Cause) (source : List Char) :
    Outcome Cause (Option (Bool × List Char) × List Char) :=
  match source with
  | 'e' :: rest | 'E' :: rest => do
    let (isNegative, rest) := exponentSign rest
    let (digits, rest) ← digits atEnd rest
    return (some (isNegative, digits), rest)
  | _ => .ok (none, source)

def lexeme (atEnd : Cause) (source : List Char) : Outcome Cause (Lexeme × List Char) := do
  let (isNegative, rest) : Bool × List Char := match source with
    | '-' :: rest => (true, rest)
    | _ => (false, source)
  let (whole, rest) ← whole atEnd rest
  let (fraction, rest) ← fraction atEnd rest
  let (exponent?, rest) ← exponent atEnd rest
  return ({ isNegative, whole, fraction, exponent? }, rest)

/-! ## The value -/

def greatestSignificand : Nat := 18446744073709551615

/-- The greatest number whose negative is an integer. -/
def greatestNegated : Nat := 9223372036854775808

/-- The greatest number that an exponent may name. -/
def greatestExponent : Nat := 2147483647

/-- The greatest power of ten that is a float. -/
def greatestPower : Nat := 308

/-- A number with one more digit. -/
def withDigit (number : Nat) (digit : Char) : Nat := 10 * number + (digit.toNat - '0'.toNat)

/-- The significand after the digits of a whole number, and how many of them did not fit. -/
def takeWhole : (significand : Nat) → List Char → Nat × Nat
  | significand, [] => (significand, 0)
  | significand, digit :: digits =>
    if withDigit significand digit ≤ greatestSignificand then
      takeWhole (withDigit significand digit) digits
    else (significand, digits.length + 1)

/-- The significand after the digits of a fraction, and how many of them it took. -/
def takeFraction : (significand : Nat) → List Char → Nat × Nat
  | significand, [] => (significand, 0)
  | significand, digit :: digits =>
    if withDigit significand digit ≤ greatestSignificand then
      let (significand, taken) := takeFraction (withDigit significand digit) digits
      (significand, taken + 1)
    else (significand, 0)

/-- The value of an exponent, or the digits that follow the one that is too much. -/
def exponentValue : (value : Nat) → List Char → Except (List Char) Nat
  | value, [] => .ok value
  | value, digit :: digits =>
    if withDigit value digit ≤ greatestExponent then exponentValue (withDigit value digit) digits
    else .error digits

def tenTo (power : Nat) : Float := Float.ofScientific 1 false power

/-- The float `significand * 10 ^ exponent`, and nothing if it is too large. -/
def scaled? (significand : Nat) (exponent : Int) : Option Float :=
  let float := significand.toUInt64.toFloat
  if significand = 0 then some 0
  else if 0 ≤ exponent then
    if greatestPower < exponent then none
    else
      let product := float * tenTo exponent.toNat
      if product.isInf then none else some product
  else if exponent.natAbs ≤ greatestPower then some (float / tenTo exponent.natAbs)
  else if exponent.natAbs ≤ 2 * greatestPower then
    some (float / tenTo greatestPower / tenTo (exponent.natAbs - greatestPower))
  else some 0

def signed (isNegative : Bool) (float : Float) : Float := if isNegative then -float else float

/-- An integer of 64 bits, or else the nearest float. Minus zero is no integer, so it is a float. -/
def integerValue (isNegative : Bool) (significand : Nat) : Number :=
  if ¬ isNegative then .integer significand
  else if 1 ≤ significand ∧ significand ≤ greatestNegated then .integer (-significand)
  else .float (-significand.toUInt64.toFloat)

/-- The value of a number, `rest` being what follows it. -/
def Lexeme.value (lexeme : Lexeme) (rest : List Char) : Outcome Cause Number :=
  let (whole, left) := takeWhole 0 lexeme.whole
  if lexeme.fraction = [] ∧ lexeme.exponent?.isNone ∧ left = 0 then
    .ok (integerValue lexeme.isNegative whole)
  else
    let (significand, places) := takeFraction whole lexeme.fraction
    let (isReciprocal, digits) := lexeme.exponent?.getD (false, [])
    match exponentValue 0 digits with
    | .error unread =>
      if significand = 0 ∨ isReciprocal then .ok (.float (signed lexeme.isNegative 0))
      else .error ⟨.outOfRange, unread ++ rest, 0⟩
    | .ok power =>
      let exponent := (left : Int) - places + if isReciprocal then -(power : Int) else power
      match scaled? significand exponent with
      | some float => .ok (.float (signed lexeme.isNegative float))
      | none => .error ⟨.outOfRange, rest, 0⟩

/-- A number with its value. -/
def number (source : List Char) : Outcome Cause (Number × List Char) := do
  let (lexeme, rest) ← lexeme .endInValue source
  let number ← lexeme.value rest
  return (number, rest)

/-- What follows a number that is passed over. -/
def skipNumber (source : List Char) : Outcome Cause (List Char) :=
  (lexeme .badNumber source).map Prod.snd

end AddressBoard.Json

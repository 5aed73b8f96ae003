import AddressBoard.Decimal.Shortest

/-!
# The text of a decimal

A float is written with the digits of its shortest decimal: positionally while the exponent of the
first digit is at least `leastPositional` and at most `greatestPositional`, with one zero after the
point of a whole number, and otherwise with one digit before the point and a signed exponent.
-/

namespace AddressBoard.Decimal

def leastPositional : Int := -5

def greatestPositional : Int := 15

/-- The digits of a number without the zeros at its end. -/
def significantDigits (digits : Nat) : List Char :=
  ((Nat.toDigits 10 digits).reverse.dropWhile (· = '0')).reverse

/-- Digits whose first one has the exponent `magnitude`, around a decimal point. -/
def positional (digits : List Char) (magnitude : Int) : List Char :=
  if 0 ≤ magnitude then
    let places := magnitude.toNat + 1
    let fraction := digits.drop places
    digits.take places ++ List.replicate (places - digits.length) '0'
      ++ '.' :: (if fraction = [] then ['0'] else fraction)
  else '0' :: '.' :: List.replicate (-magnitude - 1).toNat '0' ++ digits

/-- Digits whose first one has the exponent `magnitude`, with that exponent after them. -/
def exponential (digits : List Char) (magnitude : Int) : List Char :=
  digits.take 1 ++ (if digits.length ≤ 1 then [] else '.' :: digits.drop 1)
    ++ 'e' :: (if magnitude < 0 then '-' else '+') :: Nat.toDigits 10 magnitude.natAbs

def Scientific.text (decimal : Scientific) : List Char :=
  let magnitude := decimal.exponent + (Nat.toDigits 10 decimal.digits).length - 1
  let digits := significantDigits decimal.digits
  if decimal.digits = 0 then positional ['0'] 0
  else if leastPositional ≤ magnitude ∧ magnitude ≤ greatestPositional then
    positional digits magnitude
  else exponential digits magnitude

/-- The bits of a float reach this number if its sign is a minus. -/
def signBit : Nat := 9223372036854775808

def text (float : Float) : String :=
  let binary := Binary.ofFloat float
  let decimal := if binary.significand = 0 then ⟨0, 0⟩ else binary.shortest
  String.ofList (if signBit ≤ float.toBits.toNat then '-' :: decimal.text else decimal.text)

example : Scientific.text ⟨18446744073709552, 3⟩ = "1.8446744073709552e+19".toList := by decide
example : Scientific.text ⟨1, 16⟩ = "1e+16".toList := by decide
example : Scientific.text ⟨1, 3⟩ = "1000.0".toList := by decide
example : Scientific.text ⟨15, -5⟩ = "0.00015".toList := by decide

end AddressBoard.Decimal

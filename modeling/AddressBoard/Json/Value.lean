/-!
# Values

The values that a text can hold. A number without fraction and exponent is an integer as long as it
fits in 64 bits; every other number is a float.
-/

namespace AddressBoard.Json

inductive Number where
  | integer (value : Int)
  | float (value : Float)
deriving DecidableEq

/-- A value that holds no other values. -/
inductive Scalar where
  | null
  | boolean (value : Bool)
  | number (value : Number)
  | text (value : String)
deriving DecidableEq

/-- Members keep their order, and a name may come more than once. -/
inductive Value where
  | scalar (value : Scalar)
  | array (elements : List Value)
  | object (members : List (String × Value))

end AddressBoard.Json

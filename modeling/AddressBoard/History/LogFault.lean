import AddressBoard.Calendar.Reading
import AddressBoard.Decimal.Layout
import AddressBoard.Json.Fault
import AddressBoard.Json.Value
import AddressBoard.Text.Quoted

/-!
# Unreadable logs

Why a log is refused, where, and the one line that says so.
-/

namespace AddressBoard.History

inductive Field where
  | address
  | time
deriving DecidableEq, Repr

def Field.name : Field → String
  | .address => "ip"
  | .time => "time"

/-- What a log is made of, down to the addresses. -/
inductive Part where
  | log
  | change
  | address
deriving DecidableEq, Repr

def Part.description : Part → String
  | .log => "a sequence"
  | .change => "struct HistoryEvent"
  | .address => "a string"

/-- A value that stands where another kind of value belongs. -/
inductive Misfit where
  | scalar (value : Json.Scalar)
  | array
  | object
deriving DecidableEq

def Misfit.description : Misfit → String
  | .scalar .null => "null"
  | .scalar (.boolean value) => s!"boolean `{value}`"
  | .scalar (.number (.integer value)) => s!"integer `{value}`"
  | .scalar (.number (.float value)) => "floating point `" ++ Decimal.text value ++ "`"
  | .scalar (.text value) => "string " ++ Text.quoted value
  | .array => "sequence"
  | .object => "map"

/-- Why a log is refused. -/
inductive LogCause where
  | grammar (cause : Json.Cause)
  | mismatch (found : Misfit) (expected : Part)
  | duplicateField (field : Field)
  | missingField (field : Field)
  | tooShort (length : Nat)
  | notTime
  | invalidTime (invalid : Calendar.InvalidTime)
deriving DecidableEq

def LogCause.message : LogCause → String
  | .grammar cause => cause.message
  | .mismatch found expected =>
    "invalid type: " ++ found.description ++ ", expected " ++ expected.description
  | .duplicateField field => "duplicate field `" ++ field.name ++ "`"
  | .missingField field => "missing field `" ++ field.name ++ "`"
  | .tooShort length => s!"invalid length {length}, expected struct HistoryEvent with 2 elements"
  | .notTime => "data did not match any variant of untagged enum RawTime"
  | .invalidTime invalid => invalid.message

/-! ## Positions in messages -/

/-- What stands before and after the last occurrence of `marker` in a text. -/
def splitLast? (marker : List Char) : List Char → Option (List Char × List Char)
  | [] => none
  | character :: rest =>
    match splitLast? marker rest with
    | some (before, behind) => some (character :: before, behind)
    | none =>
      if marker.isPrefixOf (character :: rest) then
        some ([], (character :: rest).drop marker.length)
      else none

/-- The greatest line or column that a message can state. -/
def greatestPlace : Nat := 18446744073709551615

def readPlace? (text : List Char) : Option Nat :=
  (Numeral.read? text).filter (· ≤ greatestPlace)

/-- The position at the end of a message, and the message before it. -/
def statedPosition? (message : List Char) : Option (List Char × Json.Position) := do
  let (before, place) ← splitLast? " at line ".toList message
  let (line, column) ← splitLast? " column ".toList place
  return (before, ⟨← readPlace? line, ← readPlace? column⟩)

/-- A log that is refused: the reason, and the position where reading stopped. -/
structure LogFault where
  cause : LogCause
  position : Json.Position
deriving DecidableEq

/-- A message ends with one position only. A reason that already ends with one keeps its own, unless
that has the line 0, which no text has. -/
def LogFault.message (fault : LogFault) : String :=
  let reason := fault.cause.message.toList
  let (reason, position) : List Char × Json.Position := match statedPosition? reason with
    | none => (reason, fault.position)
    | some (before, stated) => (before, if stated.line = 0 then fault.position else stated)
  s!"History parse error: {String.ofList reason} at line {position.line} column {position.column}"

example : statedPosition? "x at line 1 at line 02 column 7".toList
    = some ("x at line 1".toList, ⟨2, 7⟩) := by decide

end AddressBoard.History

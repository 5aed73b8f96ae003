/-!
# Faults

Reading stops at the first fault. A fault remembers what was not yet read and how many bytes of it
had been looked at, and from these its position in the whole text follows.
-/

namespace AddressBoard.Json

/-- What can be wrong with the way a text is written. -/
inductive Cause where
  | endInValue
  | endInText
  | endInList
  | endInObject
  | expectedColon
  | expectedListEnd
  | expectedObjectEnd
  | expectedValue
  | misspeltWord
  | badNumber
  | outOfRange
  | badEscape
  | loneSurrogate
  | cutSurrogate
  | controlCharacter
  | keyNotText
  | trailingComma
  | trailingText
  | tooDeep
deriving DecidableEq, Repr

def Cause.message : Cause → String
  | .endInValue => "EOF while parsing a value"
  | .endInText => "EOF while parsing a string"
  | .endInList => "EOF while parsing a list"
  | .endInObject => "EOF while parsing an object"
  | .expectedColon => "expected `:`"
  | .expectedListEnd => "expected `,` or `]`"
  | .expectedObjectEnd => "expected `,` or `\x7d`"
  | .expectedValue => "expected value"
  | .misspeltWord => "expected ident"
  | .badNumber => "invalid number"
  | .outOfRange => "number out of range"
  | .badEscape => "invalid escape"
  | .loneSurrogate => "lone leading surrogate in hex escape"
  | .cutSurrogate => "unexpected end of hex escape"
  | .controlCharacter => "control character (\\u0000-\\u001F) found while parsing a string"
  | .keyNotText => "key must be a string"
  | .trailingComma => "trailing comma"
  | .trailingText => "trailing characters"
  | .tooDeep => "recursion limit exceeded"

/-- A fault: its reason, what was left of the text, and the bytes of it that were looked at. -/
structure Fault (Reason : Type) where
  reason : Reason
  rest : List Char
  ahead : Nat
deriving DecidableEq, Repr

/-- What reading comes to: a result, or the first fault. -/
abbrev Outcome (Reason : Type) : Type → Type := Except (Fault Reason)

/-- A place in a text: its line, counted from 1, and the bytes before it on that line. -/
structure Position where
  line : Nat
  column : Nat
deriving DecidableEq, Repr

def Position.start : Position := ⟨1, 0⟩

def byteCount : List Char → Nat
  | [] => 0
  | character :: rest => character.utf8Size + byteCount rest

/-- The position that is `count` bytes after `position`, `text` being what stands between. -/
def Position.after (position : Position) : (count : Nat) → (text : List Char) → Position
  | 0, _ => position
  | _, [] => position
  | count + 1, character :: rest =>
    let size := character.utf8Size
    let next : Position :=
      if character = '\n' then ⟨position.line + 1, 0⟩
      else ⟨position.line, position.column + min size (count + 1)⟩
    next.after (count + 1 - size) rest

/-- How many bytes of `text` come before the fault. -/
def Fault.offset {Reason : Type} (fault : Fault Reason) (text : List Char) : Nat :=
  min (byteCount text) (byteCount text - byteCount fault.rest + fault.ahead)

def Fault.position {Reason : Type} (fault : Fault Reason) (text : List Char) : Position :=
  Position.start.after (fault.offset text) text

end AddressBoard.Json

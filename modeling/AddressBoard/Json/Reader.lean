import AddressBoard.Json.Number
import AddressBoard.Json.Text

/-!
# Reading values

Values are read from left to right. Where a value is asked for it is read in full, and arrays and
objects may be nested only so deep. Where it is not, it is passed over: its grammar is checked to
any depth, but numbers need not be in range and surrogates not in pairs.

The readers of nested values count their steps down. A step that does not end enters a value or
moves to the next one, so twice the length of the text is enough for all of them.
-/

namespace AddressBoard.Json

/-- White space is space, tab, line feed and carriage return. -/
def skipSpace (source : List Char) : List Char := source.dropWhile Char.isWhitespace

/-- The rest of a word whose first letter was read. -/
def word : (letters : List Char) → (source : List Char) → Outcome Cause (List Char)
  | [], source => .ok source
  | _, [] => .error ⟨.endInValue, [], 0⟩
  | letter :: letters, character :: rest =>
    if character = letter then word letters rest
    else .error ⟨.misspeltWord, character :: rest, 1⟩

def scalar (source : List Char) : Outcome Cause (Scalar × List Char) :=
  match source with
  | [] => .error ⟨.endInValue, [], 0⟩
  | 'n' :: rest => do return (.null, ← word ['u', 'l', 'l'] rest)
  | 't' :: rest => do return (.boolean true, ← word ['r', 'u', 'e'] rest)
  | 'f' :: rest => do return (.boolean false, ← word ['a', 'l', 's', 'e'] rest)
  | '"' :: rest => do
    let (characters, rest) ← text rest
    return (.text (String.ofList characters), rest)
  | character :: _ => do
    if character = '-' ∨ character.isDigit then
      let (value, rest) ← number source
      return (.number value, rest)
    else throw ⟨.expectedValue, source, 1⟩

/-- What stands next in an array or object: an element or member, or the closing bracket, which is
taken. -/
inductive Step where
  | next (rest : List Char)
  | close (rest : List Char)
deriving DecidableEq, Repr

/-- Moves to the next element of an array. -/
def toElement (isFirst : Bool) (source : List Char) : Outcome Cause Step :=
  match skipSpace source with
  | [] => .error ⟨.endInList, [], 0⟩
  | ']' :: rest => .ok (.close rest)
  | character :: rest =>
    if isFirst then .ok (.next (character :: rest))
    else if character = ',' then
      match skipSpace rest with
      | [] => .error ⟨.endInValue, [], 0⟩
      | ']' :: rest => .error ⟨.trailingComma, ']' :: rest, 1⟩
      | rest => .ok (.next rest)
    else .error ⟨.expectedListEnd, character :: rest, 1⟩

/-- Moves behind the quotation mark before the name of the next member of an object. -/
def toMember (isFirst : Bool) (source : List Char) : Outcome Cause Step :=
  match skipSpace source with
  | [] => .error ⟨.endInObject, [], 0⟩
  | '\x7d' :: rest => .ok (.close rest)
  | character :: rest =>
    if isFirst then
      if character = '"' then .ok (.next rest) else .error ⟨.keyNotText, character :: rest, 1⟩
    else if character = ',' then
      match skipSpace rest with
      | [] => .error ⟨.endInValue, [], 0⟩
      | '"' :: rest => .ok (.next rest)
      | '\x7d' :: rest => .error ⟨.trailingComma, '\x7d' :: rest, 1⟩
      | rest => .error ⟨.keyNotText, rest, 1⟩
    else .error ⟨.expectedObjectEnd, character :: rest, 1⟩

def colon (source : List Char) : Outcome Cause (List Char) :=
  match skipSpace source with
  | [] => .error ⟨.endInObject, [], 0⟩
  | ':' :: rest => .ok rest
  | rest => .error ⟨.expectedColon, rest, 1⟩

/-- The fault of a reader that has no steps left. -/
def exhausted : Fault Cause := ⟨.endInValue, [], 0⟩

/-- Enough steps for every reader of nested values. -/
def stepsFor (source : List Char) : Nat := 2 * source.length + 2

/-! ## Values that are asked for -/

mutual

/-- A value in which arrays and objects are nested at most `depth` deep. -/
def valueWithin (steps depth : Nat) (source : List Char) : Outcome Cause (Value × List Char) :=
  match steps with
  | 0 => .error exhausted
  | steps + 1 =>
    match skipSpace source, depth with
    | '[' :: rest, 0 => .error ⟨.tooDeep, '[' :: rest, 1⟩
    | '[' :: rest, depth + 1 => do
      let (elements, rest) ← elementsWithin steps depth true rest
      return (.array elements, rest)
    | '\x7b' :: rest, 0 => .error ⟨.tooDeep, '\x7b' :: rest, 1⟩
    | '\x7b' :: rest, depth + 1 => do
      let (members, rest) ← membersWithin steps depth true rest
      return (.object members, rest)
    | rest, _ => do
      let (value, rest) ← scalar rest
      return (.scalar value, rest)

def elementsWithin (steps depth : Nat) (isFirst : Bool) (source : List Char) :
    Outcome Cause (List Value × List Char) :=
  match steps with
  | 0 => .error exhausted
  | steps + 1 => do
    match ← toElement isFirst source with
    | .close rest => return ([], rest)
    | .next rest =>
      let (element, rest) ← valueWithin steps depth rest
      let (elements, rest) ← elementsWithin steps depth false rest
      return (element :: elements, rest)

def membersWithin (steps depth : Nat) (isFirst : Bool) (source : List Char) :
    Outcome Cause (List (String × Value) × List Char) :=
  match steps with
  | 0 => .error exhausted
  | steps + 1 => do
    match ← toMember isFirst source with
    | .close rest => return ([], rest)
    | .next rest =>
      let (name, rest) ← text rest
      let rest ← colon rest
      let (value, rest) ← valueWithin steps depth rest
      let (members, rest) ← membersWithin steps depth false rest
      return ((String.ofList name, value) :: members, rest)

end

/-- The next value, with arrays and objects nested at most `depth` deep. -/
def value (depth : Nat) (source : List Char) : Outcome Cause (Value × List Char) :=
  valueWithin (stepsFor source) depth source

/-! ## Values that are passed over -/

mutual

def skipValueWithin (steps : Nat) (source : List Char) : Outcome Cause (List Char) :=
  match steps with
  | 0 => .error exhausted
  | steps + 1 =>
    match skipSpace source with
    | [] => .error ⟨.endInValue, [], 0⟩
    | '[' :: rest => skipElementsWithin steps true rest
    | '\x7b' :: rest => skipMembersWithin steps true rest
    | 'n' :: rest => word ['u', 'l', 'l'] rest
    | 't' :: rest => word ['r', 'u', 'e'] rest
    | 'f' :: rest => word ['a', 'l', 's', 'e'] rest
    | '"' :: rest => skipText rest
    | character :: rest =>
      if character = '-' ∨ character.isDigit then skipNumber (character :: rest)
      else .error ⟨.expectedValue, character :: rest, 1⟩

def skipElementsWithin (steps : Nat) (isFirst : Bool) (source : List Char) :
    Outcome Cause (List Char) :=
  match steps with
  | 0 => .error exhausted
  | steps + 1 =>
    match skipSpace source with
    | [] => .error ⟨.endInList, [], 0⟩
    | ']' :: rest => .ok rest
    | character :: rest =>
      if isFirst then do
        let rest ← skipValueWithin steps (character :: rest)
        skipElementsWithin steps false rest
      else if character = ',' then do
        let rest ← skipValueWithin steps rest
        skipElementsWithin steps false rest
      else .error ⟨.expectedListEnd, character :: rest, 1⟩

def skipMembersWithin (steps : Nat) (isFirst : Bool) (source : List Char) :
    Outcome Cause (List Char) :=
  match steps with
  | 0 => .error exhausted
  | steps + 1 =>
    match skipSpace source with
    | [] => .error ⟨.endInObject, [], 0⟩
    | '\x7d' :: rest => .ok rest
    | character :: rest =>
      if isFirst then skipMemberWithin steps (character :: rest)
      else if character = ',' then skipMemberWithin steps (skipSpace rest)
      else .error ⟨.expectedObjectEnd, character :: rest, 1⟩

/-- One member, and all that follow it in its object. -/
def skipMemberWithin (steps : Nat) (source : List Char) : Outcome Cause (List Char) :=
  match steps with
  | 0 => .error exhausted
  | steps + 1 =>
    match source with
    | [] => .error ⟨.endInObject, [], 0⟩
    | '"' :: rest => do
      let rest ← skipText rest
      let rest ← colon rest
      let rest ← skipValueWithin steps rest
      skipMembersWithin steps false rest
    | rest => .error ⟨.keyNotText, rest, 1⟩

end

/-- What follows the next value, which may be nested to any depth. -/
def skipValue (source : List Char) : Outcome Cause (List Char) :=
  skipValueWithin (stepsFor source) source

end AddressBoard.Json

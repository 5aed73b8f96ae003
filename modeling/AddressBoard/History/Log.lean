import AddressBoard.History.Change
import AddressBoard.History.LogFault
import AddressBoard.Json.Reader

/-!
# Logs

A log is a JSON array of changes, the oldest first. A change is an object with an address and a
time, each exactly once and among any other members, or an array of just these two. A time is a text
or a whole number of milliseconds. One bad change spoils the whole log.
-/

namespace AddressBoard.History

open Json (Outcome)

/-- The fault of a log that lies in its grammar. -/
def ofGrammar {Result : Type} (outcome : Outcome Json.Cause Result) : Outcome LogCause Result :=
  outcome.mapError fun fault => ⟨.grammar fault.reason, fault.rest, fault.ahead⟩

/-- The fault of the value that comes next, where another kind of value belongs. A scalar is read
first, so that its own faults are found. -/
def refuse {Result : Type} (expected : Part) (source : List Char) : Outcome LogCause Result :=
  match Json.skipSpace source with
  | '[' :: rest => .error ⟨.mismatch .array expected, '[' :: rest, 0⟩
  | '\x7b' :: rest => .error ⟨.mismatch .object expected, '\x7b' :: rest, 0⟩
  | source => do
    let (value, rest) ← ofGrammar (Json.scalar source)
    throw ⟨.mismatch (.scalar value) expected, rest, 0⟩

def address (source : List Char) : Outcome LogCause (String × List Char) :=
  match Json.skipSpace source with
  | '"' :: rest => do
    let (characters, rest) ← ofGrammar (Json.text rest)
    return (String.ofList characters, rest)
  | source => refuse .address source

/-- How deep a time can be nested. No time is, but it is read as a value before it is refused. -/
def greatestDepth : Nat := 125

def instant : Json.Value → Except LogCause Calendar.Instant
  | .scalar (.text text) => (Calendar.Instant.read text).mapError .invalidTime
  | .scalar (.number (.integer millis)) =>
    if Numeral.leastSigned ≤ millis ∧ millis ≤ Numeral.greatestSigned then
      (Calendar.Instant.ofMillis millis).mapError .invalidTime
    else .error .notTime
  | _ => .error .notTime

def time (source : List Char) : Outcome LogCause (Calendar.Instant × List Char) := do
  let (value, rest) ← ofGrammar (Json.value greatestDepth source)
  match instant value with
  | .ok instant => return (instant, rest)
  | .error cause => throw ⟨cause, rest, 0⟩

/-! ## Changes -/

/-- A fault in what a change says, and not in how it is written. -/
def LogCause.isOfContent : LogCause → Bool
  | .grammar _ => false
  | .mismatch _ _ => false
  | _ => true

/-- A fault of content is reported behind the end of its change, if the change ends there. -/
def reportBehind {Result : Type} (close : List Char → List Char)
    (outcome : Outcome LogCause Result) : Outcome LogCause Result :=
  outcome.mapError fun fault =>
    if fault.reason.isOfContent then { fault with rest := close fault.rest } else fault

/-- White space and a brace, if there is one. -/
def closeObject (source : List Char) : List Char :=
  match Json.skipSpace source with
  | '\x7d' :: rest => rest
  | rest => rest

/-- White space and a bracket or a comma, if there is one. -/
def closeArray (source : List Char) : List Char :=
  match Json.skipSpace source with
  | ']' :: rest => rest
  | ',' :: rest => Json.skipSpace rest
  | rest => rest

/-- The fields of a change that were found so far. -/
structure Draft where
  address? : Option String
  time? : Option Calendar.Instant
deriving DecidableEq, Repr

/-- Reads the members of an object in at most `steps` steps. A field that comes again is a fault as
soon as its name is read. -/
def fields (steps : Nat) (isFirst : Bool) (draft : Draft) (source : List Char) :
    Outcome LogCause (Draft × List Char) :=
  match steps with
  | 0 => ofGrammar (.error Json.exhausted)
  | steps + 1 => do
    match ← ofGrammar (Json.toMember isFirst source) with
    | .close rest => return (draft, rest)
    | .next rest =>
      let (name, rest) ← ofGrammar (Json.text rest)
      if String.ofList name = Field.address.name then
        if draft.address?.isSome then throw ⟨.duplicateField .address, rest, 0⟩
        let rest ← ofGrammar (Json.colon rest)
        let (address, rest) ← address rest
        fields steps false { draft with address? := some address } rest
      else if String.ofList name = Field.time.name then
        if draft.time?.isSome then throw ⟨.duplicateField .time, rest, 0⟩
        let rest ← ofGrammar (Json.colon rest)
        let (time, rest) ← time rest
        fields steps false { draft with time? := some time } rest
      else
        let rest ← ofGrammar (Json.colon rest)
        let rest ← ofGrammar (Json.skipValue rest)
        fields steps false draft rest

def changeOfObject (source : List Char) : Outcome LogCause (Change × List Char) := do
  let (draft, rest) ← reportBehind closeObject
    (fields (Json.stepsFor source) true ⟨none, none⟩ source)
  match draft.address?, draft.time? with
  | none, _ => throw ⟨.missingField .address, rest, 0⟩
  | some _, none => throw ⟨.missingField .time, rest, 0⟩
  | some address, some time => return ({ address, time }, rest)

def endOfPair (source : List Char) : Outcome LogCause (List Char) :=
  match Json.skipSpace source with
  | [] => .error ⟨.grammar .endInList, [], 0⟩
  | ']' :: rest => .ok rest
  | ',' :: rest =>
    match Json.skipSpace rest with
    | ']' :: rest => .error ⟨.grammar .trailingComma, ']' :: rest, 1⟩
    | rest => .error ⟨.grammar .trailingText, rest, 1⟩
  | rest => .error ⟨.grammar .trailingText, rest, 1⟩

def changeOfArray (source : List Char) : Outcome LogCause (Change × List Char) := do
  match ← ofGrammar (Json.toElement true source) with
  | .close rest => throw ⟨.tooShort 0, rest, 0⟩
  | .next rest =>
    let (address, rest) ← address rest
    match ← ofGrammar (Json.toElement false rest) with
    | .close rest => throw ⟨.tooShort 1, rest, 0⟩
    | .next rest =>
      let (time, rest) ← reportBehind closeArray (time rest)
      let rest ← endOfPair rest
      return ({ address, time }, rest)

def change (source : List Char) : Outcome LogCause (Change × List Char) :=
  match Json.skipSpace source with
  | '\x7b' :: rest => changeOfObject rest
  | '[' :: rest => changeOfArray rest
  | source => refuse .change source

/-! ## Logs -/

/-- Reads the changes of a log in at most `steps` steps. -/
def changes (steps : Nat) (isFirst : Bool) (source : List Char) :
    Outcome LogCause (List Change × List Char) :=
  match steps with
  | 0 => ofGrammar (.error Json.exhausted)
  | steps + 1 => do
    match ← ofGrammar (Json.toElement isFirst source) with
    | .close rest => return ([], rest)
    | .next rest =>
      let (first, rest) ← change rest
      let (others, rest) ← changes steps false rest
      return (first :: others, rest)

def logOf (source : List Char) : Outcome LogCause (List Change) :=
  match Json.skipSpace source with
  | '[' :: rest => do
    let (changes, rest) ← changes (Json.stepsFor rest) true rest
    match Json.skipSpace rest with
    | [] => return changes
    | rest => throw ⟨.grammar .trailingText, rest, 1⟩
  | source => refuse .log source

/-- The changes of a log, the oldest first. -/
def readLog (raw : String) : Except LogFault (List Change) :=
  (logOf raw.toList).mapError fun fault => ⟨fault.reason, fault.position raw.toList⟩

end AddressBoard.History

import AddressBoard.Calendar.Instant
import AddressBoard.Text.Blank

/-!
# Reading timestamps

A timestamp is tried in ten readings, one after the other: the strict internet form, three patterns
with an offset, four without one, a bare date, and a count of milliseconds. A reading collects
`Fields` from the text and then asks whether they name an instant.

Patterns are lenient where the strict form is not: blanks before a number are skipped, numbers may
be shorter than their width, a year may carry a sign, and a space stands for any run of blanks.
-/

namespace AddressBoard.Calendar

/-- What a reading collects: a local date and time, and how far the local clock is ahead of UTC. -/
structure Fields where
  date : Date
  hour : Nat
  minute : Nat
  second : Nat
  nano : Nat
  offset : Int
deriving DecidableEq, Repr

def Fields.blank : Fields := ⟨⟨0, 0, 0⟩, 0, 0, 0, 0, 0⟩

/-- The instant that the fields name. Second 60 is a leap second after second 59 of any minute. -/
def Fields.instant? (fields : Fields) : Option Instant :=
  let leap := fields.second = 60
  let second := if leap then 59 else fields.second
  let instant : Instant :=
    { second := fields.date.dayNumber * Instant.secondsPerDay
        + (3600 * fields.hour + 60 * fields.minute + second : Nat) - fields.offset
      nano := if leap then fields.nano + Instant.nanosPerSecond else fields.nano }
  if fields.date.Valid ∧ Instant.earliestYear ≤ fields.date.year
      ∧ fields.date.year ≤ Instant.latestYear
      ∧ fields.hour ≤ 23 ∧ fields.minute ≤ 59 ∧ fields.second ≤ 60
      ∧ fields.offset.natAbs < 86400 ∧ instant.InRange then
    some instant
  else none

/-! ## Parts of a timestamp -/

/-- The digits at the start of a text, at most `most` of them, and what follows. -/
def takeDigits : (most : Nat) → List Char → List Char × List Char
  | most + 1, character :: rest =>
    if character.isDigit then
      let (digits, rest) := takeDigits most rest
      (character :: digits, rest)
    else ([], character :: rest)
  | _, text => ([], text)

/-- A number of one to `most` digits, after any blanks. -/
def number? (most : Nat) (text : List Char) : Option (Nat × List Char) :=
  match takeDigits most (Text.trimStart text) with
  | ([], _) => none
  | (digits, rest) => some (Nat.ofDigitChars 10 digits 0, rest)

def fixedNumber? (width : Nat) (text : List Char) : Option (Nat × List Char) :=
  match takeDigits width text with
  | (digits, rest) =>
    if digits.length = width then some (Nat.ofDigitChars 10 digits 0, rest) else none

/-- All digits at the start of a text, of which there must be one. -/
def digits? (text : List Char) : Option (List Char × List Char) :=
  match text.takeWhile Char.isDigit with
  | [] => none
  | digits => some (digits, text.dropWhile Char.isDigit)

/-- A year of up to four digits, or of any number of digits after a sign. -/
def year? (text : List Char) : Option (Int × List Char) :=
  match Text.trimStart text with
  | '-' :: rest =>
    (digits? rest).map fun (digits, rest) => (-(Nat.ofDigitChars 10 digits 0 : Int), rest)
  | '+' :: rest =>
    (digits? rest).map fun (digits, rest) => ((Nat.ofDigitChars 10 digits 0 : Int), rest)
  | rest => (number? 4 rest).map fun (year, rest) => ((year : Int), rest)

/-- The nanoseconds that the digits after a decimal point stand for; those past the ninth are
dropped. -/
def nanosOfDigits (digits : List Char) : Nat :=
  Nat.ofDigitChars 10 ((digits ++ List.replicate 9 '0').take 9) 0

/-- A fraction of a second, which may be missing; a point must be followed by a digit. -/
def fraction? : List Char → Option (Nat × List Char)
  | '.' :: rest => (digits? rest).map fun (digits, rest) => (nanosOfDigits digits, rest)
  | text => some (0, text)

/-- The sign of an offset: a plus, a hyphen, or the minus sign U+2212. -/
def sign? : List Char → Option (Int × List Char)
  | '+' :: rest => some (1, rest)
  | '-' :: rest => some (-1, rest)
  | '\u2212' :: rest => some (-1, rest)
  | _ => none

/-- An offset of two digits of hours and two of minutes around what `between` passes over, in
seconds. -/
def offset? (between : List Char → Option (List Char)) (text : List Char) :
    Option (Int × List Char) := do
  let (sign, rest) ← sign? text
  let (hours, rest) ← fixedNumber? 2 rest
  let rest ← between rest
  let (minutes, rest) ← fixedNumber? 2 rest
  if minutes ≤ 59 then some (sign * (3600 * hours + 60 * minutes : Nat), rest) else none

def literal? (expected : Char) : List Char → Option (List Char)
  | character :: rest => if character = expected then some rest else none
  | [] => none

/-! ## Patterns -/

/-- One part of a pattern. An offset is written with a colon or without one, and either spelling is
read for the other. -/
inductive Item where
  | year
  | month
  | day
  | hour
  | minute
  | second
  | fraction
  | offset
  | colonOffset
  | space
  | literal (character : Char)
deriving DecidableEq, Repr

/-- Reads one part and enters what it says into the fields. -/
def Item.scan? (item : Item) (fields : Fields) (text : List Char) : Option (Fields × List Char) :=
  match item with
  | .year => (year? text).map fun (value, rest) => ({ fields with date.year := value }, rest)
  | .month => (number? 2 text).map fun (value, rest) => ({ fields with date.month := value }, rest)
  | .day => (number? 2 text).map fun (value, rest) => ({ fields with date.day := value }, rest)
  | .hour => (number? 2 text).map fun (value, rest) => ({ fields with hour := value }, rest)
  | .minute => (number? 2 text).map fun (value, rest) => ({ fields with minute := value }, rest)
  | .second => (number? 2 text).map fun (value, rest) => ({ fields with second := value }, rest)
  | .fraction => (fraction? text).map fun (value, rest) => ({ fields with nano := value }, rest)
  | .offset | .colonOffset =>
    let colons := fun rest => some (rest.dropWhile fun c => c = ':' || Text.isBlank c)
    (offset? colons (Text.trimStart text)).map fun (value, rest) =>
      ({ fields with offset := value }, rest)
  | .space => some (fields, Text.trimStart text)
  | .literal character => (literal? character text).map fun rest => (fields, rest)

abbrev Pattern := List Item

/-- Reads a whole text by a pattern; nothing may remain. -/
def Pattern.fields? : Pattern → Fields → List Char → Option Fields
  | [], fields, text => if text = [] then some fields else none
  | item :: pattern, fields, text => do
    let (fields, rest) ← item.scan? fields text
    Pattern.fields? pattern fields rest

def Pattern.instant? (pattern : Pattern) (text : List Char) : Option Instant := do
  let fields ← pattern.fields? .blank text
  fields.instant?

def datePattern : Pattern := [.year, .literal '-', .month, .literal '-', .day]

def minutePattern : Pattern := [.hour, .literal ':', .minute]

def secondPattern : Pattern := minutePattern ++ [.literal ':', .second, .fraction]

def offsetPatterns : List Pattern :=
  [datePattern ++ [.literal 'T'] ++ secondPattern ++ [.offset],
    datePattern ++ [.literal 'T'] ++ minutePattern ++ [.colonOffset],
    datePattern ++ [.literal 'T'] ++ minutePattern ++ [.offset]]

/-- The patterns of texts without an offset, which are taken as UTC. -/
def plainPatterns : List Pattern :=
  [datePattern ++ [.literal 'T'] ++ secondPattern,
    datePattern ++ [.space] ++ secondPattern,
    datePattern ++ [.literal 'T'] ++ minutePattern,
    datePattern ++ [.space] ++ minutePattern,
    datePattern]

/-! ## The strict form -/

/-- The offset of the strict form: `Z`, or hours and minutes around one colon. -/
def strictOffset? : List Char → Option (Int × List Char)
  | 'Z' :: rest => some (0, rest)
  | 'z' :: rest => some (0, rest)
  | text => offset? (literal? ':') text

/-- The form `YYYY-MM-DDTHH:MM:SS` with an optional fraction and a mandatory offset, every number at
its full width. The `T` may be small, or a space. -/
def strictFields? (text : List Char) : Option Fields := do
  let (year, rest) ← fixedNumber? 4 text
  let rest ← literal? '-' rest
  let (month, rest) ← fixedNumber? 2 rest
  let rest ← literal? '-' rest
  let (day, rest) ← fixedNumber? 2 rest
  let rest ← match rest with
    | 'T' :: rest => some rest
    | 't' :: rest => some rest
    | ' ' :: rest => some rest
    | _ => none
  let (hour, rest) ← fixedNumber? 2 rest
  let rest ← literal? ':' rest
  let (minute, rest) ← fixedNumber? 2 rest
  let rest ← literal? ':' rest
  let (second, rest) ← fixedNumber? 2 rest
  let (nano, rest) ← fraction? rest
  let (offset, rest) ← strictOffset? rest
  if rest = [] then
    some { date := ⟨year, month, day⟩, hour, minute, second, nano, offset }
  else none

def strictInstant? (text : List Char) : Option Instant := do
  let fields ← strictFields? text
  fields.instant?

/-! ## All readings -/

/-- Takes one `Z` off the end of a text, or else one `z`. -/
def dropZulu (text : List Char) : List Char :=
  match text.getLast? with
  | some 'Z' => text.dropLast
  | some 'z' => text.dropLast
  | _ => text

/-- The nine readings of a trimmed text as a date, in the order in which they are tried. -/
def dateReadings : List (List Char → Option Instant) :=
  strictInstant? :: offsetPatterns.map Pattern.instant?
    ++ plainPatterns.map fun pattern text => pattern.instant? (dropZulu text)

def millisReading (text : List Char) : Option Instant := do
  let millis ← Numeral.readSigned? text
  Instant.ofMillis? millis

def readings : List (List Char → Option Instant) := dateReadings ++ [millisReading]

/-- A text or number that names no instant. -/
structure InvalidTime where
  text : String
deriving DecidableEq, Repr

def InvalidTime.message (invalid : InvalidTime) : String := "Invalid timestamp: " ++ invalid.text

def Instant.ofMillis (millis : Int) : Except InvalidTime Instant :=
  match Instant.ofMillis? millis with
  | some instant => .ok instant
  | none => .error ⟨toString millis⟩

/-- The instant that a text names by the first reading that accepts it, blanks around it left out.
A number of milliseconds out of range is reported as a number, any other text as it stands. -/
def Instant.read (text : String) : Except InvalidTime Instant :=
  let trimmed := Text.trim text.toList
  match dateReadings.findSome? fun reading => reading trimmed with
  | some instant => .ok instant
  | none =>
    match Numeral.readSigned? trimmed with
    | some millis => Instant.ofMillis millis
    | none => .error ⟨String.ofList trimmed⟩

end AddressBoard.Calendar

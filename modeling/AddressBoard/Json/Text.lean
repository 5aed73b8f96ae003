import AddressBoard.Json.Fault

/-!
# Texts

A text stands between quotation marks. An escape is a letter for a common character, or `u` and the
four hexadecimal digits of a UTF-16 code unit, of which a leading and a trailing surrogate together
name one character. All readers here start behind the quotation mark or backslash that led to them,
and what follows is given along with what was read.
-/

namespace AddressBoard.Json

/-- The character that an escape of one letter stands for. -/
def letterEscape? : Char → Option Char
  | '"' => some '"'
  | '\\' => some '\\'
  | '/' => some '/'
  | 'b' => some '\x08'
  | 'f' => some '\x0c'
  | 'n' => some '\n'
  | 'r' => some '\r'
  | 't' => some '\t'
  | _ => none

def hexDigit? (character : Char) : Option Nat :=
  if '0' ≤ character ∧ character ≤ '9' then some (character.toNat - '0'.toNat)
  else if 'a' ≤ character ∧ character ≤ 'f' then some (character.toNat - 'a'.toNat + 10)
  else if 'A' ≤ character ∧ character ≤ 'F' then some (character.toNat - 'A'.toNat + 10)
  else none

/-- The value of four hexadecimal digits, and what follows them. -/
def fourDigits? : List Char → Option (Nat × List Char)
  | first :: second :: third :: fourth :: rest => do
    let first ← hexDigit? first
    let second ← hexDigit? second
    let third ← hexDigit? third
    let fourth ← hexDigit? fourth
    return (((first * 16 + second) * 16 + third) * 16 + fourth, rest)
  | _ => none

/-- Four hexadecimal digits. They are looked at together, so a wrong one counts all four bytes. -/
def codeUnit (text : List Char) : Outcome Cause (Nat × List Char) :=
  match fourDigits? text with
  | some outcome => .ok outcome
  | none => if byteCount text < 4 then .error ⟨.endInText, [], 0⟩ else .error ⟨.badEscape, text, 4⟩

def isLeading (unit : Nat) : Bool := 0xD800 ≤ unit && unit ≤ 0xDBFF

def isTrailing (unit : Nat) : Bool := 0xDC00 ≤ unit && unit ≤ 0xDFFF

/-- The character that a leading and a trailing surrogate name together. -/
def joinSurrogates (leading trailing : Nat) : Char :=
  Char.ofNat (0x10000 + (leading - 0xD800) * 0x400 + (trailing - 0xDC00))

/-- The second half of a pair of surrogates, which must follow at once as an escape of its own. -/
def trailingSurrogate (leading : Nat) : List Char → Outcome Cause (Char × List Char)
  | [] => .error ⟨.endInText, [], 0⟩
  | ['\\'] => .error ⟨.endInText, [], 0⟩
  | '\\' :: 'u' :: rest => do
    let (unit, rest) ← codeUnit rest
    if isTrailing unit then return (joinSurrogates leading unit, rest)
    else throw ⟨.loneSurrogate, rest, 0⟩
  | '\\' :: rest => .error ⟨.cutSurrogate, rest, 1⟩
  | rest => .error ⟨.cutSurrogate, rest, 1⟩

def escape : List Char → Outcome Cause (Char × List Char)
  | [] => .error ⟨.endInText, [], 0⟩
  | 'u' :: rest => do
    let (unit, rest) ← codeUnit rest
    if isTrailing unit then throw ⟨.loneSurrogate, rest, 0⟩
    else if isLeading unit then trailingSurrogate unit rest
    else return (Char.ofNat unit, rest)
  | letter :: rest =>
    match letterEscape? letter with
    | some character => .ok (character, rest)
    | none => .error ⟨.badEscape, letter :: rest, 1⟩

/-- One escape whose meaning is not asked for: surrogates need no partner. -/
def skipEscape : List Char → Outcome Cause (List Char)
  | [] => .error ⟨.endInText, [], 0⟩
  | 'u' :: rest => (codeUnit rest).map Prod.snd
  | letter :: rest =>
    if (letterEscape? letter).isSome then .ok rest else .error ⟨.badEscape, letter :: rest, 1⟩

/-! ## Escapes take up text -/

theorem codeUnit_shorter {text rest : List Char} {unit : Nat}
    (outcome : codeUnit text = .ok (unit, rest)) : rest.length < text.length := by
  unfold codeUnit at outcome
  split at outcome
  · next read =>
    cases outcome
    unfold fourDigits? at read
    split at read
    · simp only [Option.bind_eq_bind, Option.bind_eq_some_iff, Option.pure_def,
        Option.some.injEq, Prod.mk.injEq] at read
      obtain ⟨_, _, _, _, _, _, _, _, _, tail⟩ := read
      simp only [← tail, List.length_cons]
      omega
    · cases read
  · split at outcome <;> cases outcome

theorem trailingSurrogate_shorter {text rest : List Char} {leading : Nat} {character : Char}
    (outcome : trailingSurrogate leading text = .ok (character, rest)) :
    rest.length < text.length := by
  unfold trailingSurrogate at outcome
  split at outcome <;> try cases outcome
  next behind =>
    cases read : codeUnit behind with
    | error fault => simp [read, bind, Except.bind] at outcome
    | ok value =>
      simp only [read, bind, Except.bind] at outcome
      split at outcome
      · simp only [pure, Except.pure, Except.ok.injEq, Prod.mk.injEq] at outcome
        have shorter := codeUnit_shorter read
        simp only [List.length_cons, ← outcome.2]
        omega
      · cases outcome

theorem escape_shorter {text rest : List Char} {character : Char}
    (outcome : escape text = .ok (character, rest)) : rest.length < text.length := by
  unfold escape at outcome
  split at outcome
  · cases outcome
  · next behind =>
    cases read : codeUnit behind with
    | error fault => simp [read, bind, Except.bind] at outcome
    | ok value =>
      have shorter := codeUnit_shorter read
      simp only [read, bind, Except.bind] at outcome
      simp only [List.length_cons]
      split at outcome
      · cases outcome
      · split at outcome
        · have := trailingSurrogate_shorter outcome
          omega
        · simp only [pure, Except.pure, Except.ok.injEq, Prod.mk.injEq] at outcome
          rw [← outcome.2]
          omega
  · split at outcome
    · cases outcome
      simp
    · cases outcome

theorem skipEscape_shorter {text rest : List Char} (outcome : skipEscape text = .ok rest) :
    rest.length < text.length := by
  unfold skipEscape at outcome
  split at outcome
  · cases outcome
  · next behind =>
    cases read : codeUnit behind with
    | error fault => simp [read, Except.map] at outcome
    | ok value =>
      have shorter := codeUnit_shorter read
      simp only [read, Except.map, Except.ok.injEq] at outcome
      simp only [List.length_cons, ← outcome]
      omega
  · split at outcome
    · cases outcome
      simp
    · cases outcome

/-! ## Whole texts -/

/-- The characters up to the closing quotation mark. -/
def text : (source : List Char) → Outcome Cause (List Char × List Char)
  | [] => .error ⟨.endInText, [], 0⟩
  | '"' :: rest => .ok ([], rest)
  | '\\' :: rest =>
    match _ : escape rest with
    | .error fault => .error fault
    | .ok (character, behind) => do
      let (characters, rest) ← text behind
      return (character :: characters, rest)
  | character :: rest =>
    if character.toNat < 0x20 then .error ⟨.controlCharacter, rest, 0⟩
    else do
      let (characters, rest) ← text rest
      return (character :: characters, rest)
termination_by source => source.length
decreasing_by
  · have := escape_shorter ‹_›
    simp only [List.length_cons]
    omega
  · simp

/-- What follows a text that is passed over. -/
def skipText : (source : List Char) → Outcome Cause (List Char)
  | [] => .error ⟨.endInText, [], 0⟩
  | '"' :: rest => .ok rest
  | '\\' :: rest =>
    match _ : skipEscape rest with
    | .error fault => .error fault
    | .ok behind => skipText behind
  | character :: rest =>
    if character.toNat < 0x20 then .error ⟨.controlCharacter, character :: rest, 0⟩
    else skipText rest
termination_by source => source.length
decreasing_by
  · have := skipEscape_shorter ‹_›
    simp only [List.length_cons]
    omega
  · simp

end AddressBoard.Json

import AddressBoard.Json.Reader
import Mathlib.Tactic.Common

/-!
# The grammar of JSON

What a text must look like, apart from any reader. A rule relates a source to what is left of it
behind the phrase. Texts are sequences of UTF-16 code units here, since the grammar lets an escape
name half of a surrogate pair.
-/

namespace AddressBoard.Json

/-- A value as the grammar sees it. Members keep their order, and numbers keep their digits. -/
inductive Tree where
  | null
  | boolean (value : Bool)
  | number (lexeme : Lexeme)
  | text (units : List Nat)
  | array (elements : List Tree)
  | object (members : List (List Nat × Tree))

/-! ## Code units -/

def unitsOf (character : Char) : List Nat :=
  if character.toNat < 0x10000 then [character.toNat]
  else
    [0xD800 + (character.toNat - 0x10000) / 0x400, 0xDC00 + (character.toNat - 0x10000) % 0x400]

def units (characters : List Char) : List Nat := characters.flatMap unitsOf

/-- The characters that code units stand for, if every surrogate among them is half of a pair. -/
def decode? : List Nat → Option (List Char)
  | [] => some []
  | unit :: rest =>
    if isTrailing unit then none
    else if isLeading unit then
      match rest with
      | [] => none
      | trailing :: rest =>
        if isTrailing trailing then (decode? rest).map (joinSurrogates unit trailing :: ·) else none
    else (decode? rest).map (Char.ofNat unit :: ·)

/-- White space may stand between `source` and `behind`. -/
def Space (source behind : List Char) : Prop :=
  ∃ space : List Char, (∀ character ∈ space, character.isWhitespace) ∧ source = space ++ behind

/-- A text, from behind its opening quotation mark to behind its closing one. -/
inductive TextSpelled : List Nat → List Char → List Char → Prop where
  | close (rest : List Char) : TextSpelled [] ('"' :: rest) rest
  | plain {character : Char} {units : List Nat} {source rest : List Char}
      (hquote : character ≠ '"') (hslash : character ≠ '\\') (hprinted : 0x20 ≤ character.toNat)
      (hrest : TextSpelled units source rest) :
      TextSpelled (unitsOf character ++ units) (character :: source) rest
  | letter {letter character : Char} {units : List Nat} {source rest : List Char}
      (hletter : letterEscape? letter = some character) (hrest : TextSpelled units source rest) :
      TextSpelled (unitsOf character ++ units) ('\\' :: letter :: source) rest
  | unit {unit : Nat} {units : List Nat} {source behind rest : List Char}
      (hdigits : fourDigits? source = some (unit, behind))
      (hrest : TextSpelled units behind rest) :
      TextSpelled (unit :: units) ('\\' :: 'u' :: source) rest

structure DigitsSpelled (digits source rest : List Char) : Prop where
  source_eq : source = digits ++ rest
  ne_nil : digits ≠ []
  isDigit : ∀ digit ∈ digits, digit.isDigit

/-- A fraction, which is left out if it has no digits. -/
inductive FractionSpelled : List Char → List Char → List Char → Prop where
  | missing (rest : List Char) : FractionSpelled [] rest rest
  | digits {digits source rest : List Char} (hdigits : DigitsSpelled digits source rest) :
      FractionSpelled digits ('.' :: source) rest

/-- An exponent after a small or a capital letter, with a plus sign or none if it is positive. -/
inductive ExponentSpelled : Option (Bool × List Char) → List Char → List Char → Prop where
  | missing (rest : List Char) : ExponentSpelled none rest rest
  | unsigned {mark : Char} {digits source rest : List Char} (hmark : mark = 'e' ∨ mark = 'E')
      (hdigits : DigitsSpelled digits source rest) :
      ExponentSpelled (some (false, digits)) (mark :: source) rest
  | plus {mark : Char} {digits source rest : List Char} (hmark : mark = 'e' ∨ mark = 'E')
      (hdigits : DigitsSpelled digits source rest) :
      ExponentSpelled (some (false, digits)) (mark :: '+' :: source) rest
  | minus {mark : Char} {digits source rest : List Char} (hmark : mark = 'e' ∨ mark = 'E')
      (hdigits : DigitsSpelled digits source rest) :
      ExponentSpelled (some (true, digits)) (mark :: '-' :: source) rest

/-- A number. Its whole part begins with zero only if it is zero. -/
inductive LexemeSpelled : Lexeme → List Char → List Char → Prop where
  | mk {lexeme : Lexeme} {source behindSign behindWhole behindFraction rest : List Char}
      (hsign : source = (if lexeme.isNegative then ['-'] else []) ++ behindSign)
      (hwhole : DigitsSpelled lexeme.whole behindSign behindWhole)
      (hzero : lexeme.whole.head? = some '0' → lexeme.whole = ['0'])
      (hfraction : FractionSpelled lexeme.fraction behindWhole behindFraction)
      (hexponent : ExponentSpelled lexeme.exponent? behindFraction rest) :
      LexemeSpelled lexeme source rest

/-! ## Values -/

/-- What the rules are about: a value after white space, and what stands behind an opening bracket
or behind an element or member, up to and including the closing bracket. -/
inductive Phrase where
  | value (tree : Tree)
  | elements (isFirst : Bool) (trees : List Tree)
  | members (isFirst : Bool) (members : List (List Nat × Tree))

/-- What stands before an element or member: a comma, unless it is the first one. -/
def Divided (isFirst : Bool) (source behind : List Char) : Prop :=
  if isFirst then source = behind else Space source (',' :: behind)

inductive Spelled : Phrase → List Char → List Char → Prop where
  | null {source rest : List Char} (hspace : Space source ('n' :: 'u' :: 'l' :: 'l' :: rest)) :
      Spelled (.value .null) source rest
  | affirmed {source rest : List Char} (hspace : Space source ('t' :: 'r' :: 'u' :: 'e' :: rest)) :
      Spelled (.value (.boolean true)) source rest
  | denied {source rest : List Char}
      (hspace : Space source ('f' :: 'a' :: 'l' :: 's' :: 'e' :: rest)) :
      Spelled (.value (.boolean false)) source rest
  | number {lexeme : Lexeme} {source behind rest : List Char} (hspace : Space source behind)
      (hlexeme : LexemeSpelled lexeme behind rest) :
      Spelled (.value (.number lexeme)) source rest
  | text {units : List Nat} {source behind rest : List Char} (hspace : Space source ('"' :: behind))
      (htext : TextSpelled units behind rest) : Spelled (.value (.text units)) source rest
  | array {trees : List Tree} {source behind rest : List Char}
      (hspace : Space source ('[' :: behind))
      (helements : Spelled (.elements true trees) behind rest) :
      Spelled (.value (.array trees)) source rest
  | object {members : List (List Nat × Tree)} {source behind rest : List Char}
      (hspace : Space source ('\x7b' :: behind))
      (hmembers : Spelled (.members true members) behind rest) :
      Spelled (.value (.object members)) source rest
  | noElement {isFirst : Bool} {source rest : List Char} (hspace : Space source (']' :: rest)) :
      Spelled (.elements isFirst []) source rest
  | element {isFirst : Bool} {tree : Tree} {trees : List Tree}
      {source start between rest : List Char} (hdivided : Divided isFirst source start)
      (hvalue : Spelled (.value tree) start between)
      (hothers : Spelled (.elements false trees) between rest) :
      Spelled (.elements isFirst (tree :: trees)) source rest
  | noMember {isFirst : Bool} {source rest : List Char} (hspace : Space source ('\x7d' :: rest)) :
      Spelled (.members isFirst []) source rest
  | member {isFirst : Bool} {name : List Nat} {tree : Tree} {members : List (List Nat × Tree)}
      {source start behindQuote behindName behindColon between rest : List Char}
      (hdivided : Divided isFirst source start) (hquote : Space start ('"' :: behindQuote))
      (hname : TextSpelled name behindQuote behindName)
      (hcolon : Space behindName (':' :: behindColon))
      (hvalue : Spelled (.value tree) behindColon between)
      (hothers : Spelled (.members false members) between rest) :
      Spelled (.members isFirst ((name, tree) :: members)) source rest

/-- A whole text is one value, with white space around it. -/
def Written (text : String) (tree : Tree) : Prop :=
  ∃ rest, Spelled (.value tree) text.toList rest ∧ Space rest []

/-! ## White space -/

theorem Space.refl (source : List Char) : Space source source :=
  ⟨[], by simp, rfl⟩

theorem Space.trans {source between behind : List Char} (hfirst : Space source between)
    (hsecond : Space between behind) : Space source behind := by
  obtain ⟨space, hspace, rfl⟩ := hfirst
  obtain ⟨more, hmore, rfl⟩ := hsecond
  refine ⟨space ++ more, ?_, by simp⟩
  intro character hmem
  rcases List.mem_append.mp hmem with hmem | hmem
  · exact hspace character hmem
  · exact hmore character hmem

theorem Space.skipSpace_eq {source behind : List Char} (hspace : Space source behind)
    (hstop : behind.head?.any Char.isWhitespace = false) : skipSpace source = behind := by
  obtain ⟨space, hblank, rfl⟩ := hspace
  rw [skipSpace, List.dropWhile_append_of_pos hblank]
  cases behind with
  | nil => rfl
  | cons character behind =>
    have hblack : character.isWhitespace = false := hstop
    rw [List.dropWhile_cons_of_neg (by simp [hblack])]

theorem Space.length_le {source behind : List Char} (hspace : Space source behind) :
    behind.length ≤ source.length := by
  obtain ⟨space, -, rfl⟩ := hspace
  simp

theorem Spelled.of_space {tree : Tree} {source start rest : List Char} (hspace : Space source start)
    (hvalue : Spelled (.value tree) start rest) : Spelled (.value tree) source rest := by
  cases hvalue with
  | null hword => exact .null (hspace.trans hword)
  | affirmed hword => exact .affirmed (hspace.trans hword)
  | denied hword => exact .denied (hspace.trans hword)
  | number hstart hlexeme => exact .number (hspace.trans hstart) hlexeme
  | text hstart htext => exact .text (hspace.trans hstart) htext
  | array hstart helements => exact .array (hspace.trans hstart) helements
  | object hstart hmembers => exact .object (hspace.trans hstart) hmembers

/-! ## Texts without escapes -/

theorem textSpelled_units {characters : List Char}
    (hplain : ∀ character ∈ characters,
      character ≠ '"' ∧ character ≠ '\\' ∧ 0x20 ≤ character.toNat) (rest : List Char) :
    TextSpelled (units characters) (characters ++ '"' :: rest) rest := by
  induction characters with
  | nil => exact .close rest
  | cons character characters ih =>
    obtain ⟨hquote, hslash, hprinted⟩ := hplain character List.mem_cons_self
    have hrest := ih fun other hmem => hplain other (List.mem_cons_of_mem _ hmem)
    exact .plain hquote hslash hprinted hrest

/-! ## Values without white space -/

theorem Spelled.plain {characters : List Char}
    (hplain : ∀ character ∈ characters,
      character ≠ '"' ∧ character ≠ '\\' ∧ 0x20 ≤ character.toNat) (rest : List Char) :
    Spelled (.value (.text (units characters))) ('"' :: (characters ++ '"' :: rest)) rest :=
  .text (.refl _) (textSpelled_units hplain rest)

theorem Spelled.integer {isNegative : Bool} {digits : List Char} (hsome : digits ≠ [])
    (hdigits : ∀ digit ∈ digits, digit.isDigit) (hzero : digits.head? = some '0' → digits = ['0'])
    (rest : List Char) :
    Spelled (.value (.number ⟨isNegative, digits, [], none⟩))
      ((if isNegative then ['-'] else []) ++ (digits ++ rest)) rest :=
  .number (.refl _) ⟨rfl, ⟨rfl, hsome, hdigits⟩, hzero, .missing _, .missing _⟩

theorem Spelled.pair {first second : Tree} {source between rest : List Char}
    (hfirst : Spelled (.value first) source (',' :: between))
    (hsecond : Spelled (.value second) between (']' :: rest)) :
    Spelled (.value (.array [first, second])) ('[' :: source) rest :=
  .array (.refl _) (.element rfl hfirst (.element (.refl _) hsecond (.noElement (.refl _))))

/-! ## What phrases take up -/

theorem TextSpelled.length_lt {units : List Nat} {source rest : List Char}
    (htext : TextSpelled units source rest) : rest.length < source.length := by
  induction htext with
  | close rest => exact Nat.lt_succ_self _
  | plain hquote hslash hprinted hrest ih => exact Nat.lt_succ_of_lt ih
  | letter hletter hrest ih =>
    simp only [List.length_cons]
    omega
  | unit hdigits hrest ih =>
    have hshorter := codeUnit_shorter (by rw [codeUnit, hdigits])
    simp only [List.length_cons]
    omega

theorem DigitsSpelled.length_lt {digits source rest : List Char}
    (hdigits : DigitsSpelled digits source rest) : rest.length < source.length := by
  have hpos : 0 < digits.length := List.length_pos_iff.mpr hdigits.ne_nil
  rw [hdigits.source_eq, List.length_append]
  omega

theorem FractionSpelled.length_le {digits source rest : List Char}
    (hfraction : FractionSpelled digits source rest) : rest.length ≤ source.length := by
  cases hfraction with
  | missing => exact Nat.le_refl _
  | digits hdigits => exact Nat.le_succ_of_le (Nat.le_of_lt hdigits.length_lt)

theorem ExponentSpelled.length_le {exponent? : Option (Bool × List Char)}
    {source rest : List Char} (hexponent : ExponentSpelled exponent? source rest) :
    rest.length ≤ source.length := by
  cases hexponent with
  | missing => exact Nat.le_refl _
  | unsigned hmark hdigits =>
    have hshorter := hdigits.length_lt
    simp only [List.length_cons]
    omega
  | plus hmark hdigits =>
    have hshorter := hdigits.length_lt
    simp only [List.length_cons]
    omega
  | minus hmark hdigits =>
    have hshorter := hdigits.length_lt
    simp only [List.length_cons]
    omega

theorem LexemeSpelled.length_lt {lexeme : Lexeme} {source rest : List Char}
    (hlexeme : LexemeSpelled lexeme source rest) : rest.length < source.length := by
  obtain ⟨hsign, hwhole, -, hfraction, hexponent⟩ := hlexeme
  have hfirst := hwhole.length_lt
  have hsecond := hfraction.length_le
  have hthird := hexponent.length_le
  rw [hsign, List.length_append]
  omega

theorem Divided.length_le {isFirst : Bool} {source start : List Char}
    (hdivided : Divided isFirst source start) : start.length ≤ source.length := by
  cases isFirst with
  | true => exact Nat.le_of_eq (congrArg List.length hdivided.symm)
  | false =>
    have hcomma := Space.length_le hdivided
    exact Nat.le_trans (Nat.le_succ _) hcomma

theorem Spelled.length_lt {phrase : Phrase} {source rest : List Char}
    (hspelled : Spelled phrase source rest) : rest.length < source.length := by
  induction hspelled with
  | null hspace | affirmed hspace | denied hspace | noElement hspace | noMember hspace =>
    have hshorter := hspace.length_le
    simp only [List.length_cons] at hshorter
    omega
  | number hspace hlexeme => exact Nat.lt_of_lt_of_le hlexeme.length_lt hspace.length_le
  | text hspace htext =>
    have hshorter := hspace.length_le
    have htaken := htext.length_lt
    simp only [List.length_cons] at hshorter
    omega
  | array hspace hphrase ih | object hspace hphrase ih =>
    have hshorter := hspace.length_le
    simp only [List.length_cons] at hshorter
    omega
  | element hdivided hvalue hothers ihvalue ihothers =>
    have hshorter := hdivided.length_le
    omega
  | member hdivided hquote hname hcolon hvalue hothers ihvalue ihothers =>
    have hshorter := hdivided.length_le
    have hbehindQuote := hquote.length_le
    have hbehindName := hname.length_lt
    have hbehindColon := hcolon.length_le
    simp only [List.length_cons] at hbehindQuote hbehindColon
    omega

/-! ## What stands next -/

theorem Space.head?_any {test : Char → Bool} {character : Char} {source behind : List Char}
    (hspace : Space source (character :: behind))
    (hblank : ∀ blank : Char, blank.isWhitespace = true → test blank = false)
    (htest : test character = false) : source.head?.any test = false := by
  obtain ⟨space, hwhite, rfl⟩ := hspace
  cases space with
  | nil => exact htest
  | cons blank space => exact hblank blank (hwhite blank List.mem_cons_self)

def extendsNumber (character : Char) : Bool :=
  character.isDigit || character = '.' || character = 'e' || character = 'E'

/-- A number before `source` has come to its end. -/
def EndsNumber (source : List Char) : Prop := source.head?.any extendsNumber = false

theorem extendsNumber_of_isWhitespace (blank : Char) (hblank : blank.isWhitespace = true) :
    extendsNumber blank = false := by
  simp only [Char.isWhitespace, Bool.or_eq_true, decide_eq_true_eq] at hblank
  rcases hblank with ((rfl | rfl) | rfl) | rfl <;> decide

theorem Space.endsNumber {character : Char} {source behind : List Char}
    (hspace : Space source (character :: behind)) (hend : extendsNumber character = false) :
    EndsNumber source :=
  hspace.head?_any extendsNumber_of_isWhitespace hend

theorem Spelled.endsNumber_elements {trees : List Tree} {source rest : List Char}
    (hspelled : Spelled (.elements false trees) source rest) : EndsNumber source := by
  cases hspelled with
  | noElement hspace => exact hspace.endsNumber (by decide)
  | element hdivided => exact Space.endsNumber hdivided (by decide)

theorem Spelled.endsNumber_members {members : List (List Nat × Tree)} {source rest : List Char}
    (hspelled : Spelled (.members false members) source rest) : EndsNumber source := by
  cases hspelled with
  | noMember hspace => exact hspace.endsNumber (by decide)
  | member hdivided => exact Space.endsNumber hdivided (by decide)

/-- A value begins with a character of its own, which no other phrase begins with. -/
def beginsValue (character : Char) : Bool :=
  character = 'n' || character = 't' || character = 'f' || character = '"' || character = '['
    || character = '{' || character = '-' || character.isDigit

theorem LexemeSpelled.head_cons {lexeme : Lexeme} {source rest : List Char}
    (hlexeme : LexemeSpelled lexeme source rest) :
    ∃ character behind, source = character :: behind
      ∧ (character = '-' ∨ character.isDigit = true) := by
  obtain ⟨hsign, hwhole, -, -, -⟩ := hlexeme
  cases hnegative : lexeme.isNegative with
  | true =>
    rw [hnegative] at hsign
    exact ⟨'-', _, hsign, Or.inl rfl⟩
  | false =>
    obtain ⟨hsource, hsome, hdigits⟩ := hwhole
    rw [hnegative, hsource] at hsign
    cases hdigit : lexeme.whole with
    | nil => exact absurd hdigit hsome
    | cons digit digits =>
      rw [hdigit] at hsign hdigits
      exact ⟨digit, _, hsign, Or.inr (hdigits digit List.mem_cons_self)⟩

theorem Spelled.begins {tree : Tree} {source rest : List Char}
    (hspelled : Spelled (.value tree) source rest) :
    ∃ character behind, Space source (character :: behind)
      ∧ beginsValue character = true := by
  cases hspelled with
  | null hspace | affirmed hspace | denied hspace | text hspace _ | array hspace _
  | object hspace _ =>
    exact ⟨_, _, hspace, by decide⟩
  | number hspace hlexeme =>
    obtain ⟨character, behind, rfl, hbegin⟩ := hlexeme.head_cons
    refine ⟨_, _, hspace, ?_⟩
    rcases hbegin with rfl | hdigit
    · decide
    · simp [beginsValue, hdigit]

end AddressBoard.Json

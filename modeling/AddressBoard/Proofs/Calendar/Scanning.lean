import AddressBoard.Calendar.Reading
import Mathlib.Tactic.Common

/-!
# Scanning timestamps

What the readers of the parts of a timestamp take from a text and what they leave of it. Numbers at
their full width are read whatever follows them, and a letter for UTC behind a text is left alone by
every reader, so that taking it off before or after comes to the same.
-/

namespace AddressBoard.Calendar

/-! ## What a reader took -/

theorem map_fst_eq_some_iff {First Second Rest : Type} {change : First → Second}
    {outcome : Option (First × Rest)} {value : Second} {rest : Rest} :
    outcome.map (fun (first, rest) => (change first, rest)) = some (value, rest)
      ↔ ∃ first, outcome = some (first, rest) ∧ change first = value := by
  simp only [Option.map_eq_some_iff, Prod.exists, Prod.mk.injEq]
  constructor
  · rintro ⟨first, _, hsome, rfl, rfl⟩
    exact ⟨first, hsome, rfl⟩
  · rintro ⟨first, hsome, rfl⟩
    exact ⟨first, rest, hsome, rfl, rfl⟩

theorem number?_eq_some_iff {most number : Nat} {text rest : List Char} :
    number? most text = some (number, rest)
      ↔ ∃ digits, digits ≠ [] ∧ takeDigits most (Text.trimStart text) = (digits, rest)
          ∧ Nat.ofDigitChars 10 digits 0 = number := by
  unfold number?
  generalize takeDigits most (Text.trimStart text) = taken
  obtain ⟨_ | ⟨digit, digits⟩, behind⟩ := taken
  · simp
  · simp [and_comm]

theorem fixedNumber?_eq_some_iff {width number : Nat} {text rest : List Char} :
    fixedNumber? width text = some (number, rest)
      ↔ ∃ digits, digits.length = width ∧ takeDigits width text = (digits, rest)
          ∧ Nat.ofDigitChars 10 digits 0 = number := by
  unfold fixedNumber?
  generalize takeDigits width text = taken
  obtain ⟨digits, behind⟩ := taken
  simp [and_comm, and_left_comm]

theorem digits?_eq_some_iff {text digits rest : List Char} :
    digits? text = some (digits, rest)
      ↔ digits ≠ [] ∧ text.takeWhile Char.isDigit = digits
          ∧ text.dropWhile Char.isDigit = rest := by
  unfold digits?
  cases htaken : text.takeWhile Char.isDigit with
  | nil =>
    simp only [reduceCtorEq, false_iff]
    rintro ⟨hsome, rfl, -⟩
    exact hsome rfl
  | cons digit digits =>
    simp only [Option.some.injEq, Prod.mk.injEq]
    constructor
    · rintro ⟨rfl, rfl⟩
      exact ⟨List.cons_ne_nil _ _, rfl, rfl⟩
    · rintro ⟨-, rfl, rfl⟩
      exact ⟨rfl, rfl⟩

theorem literal?_eq_some_iff {expected : Char} {text rest : List Char} :
    literal? expected text = some rest ↔ text = expected :: rest := by
  cases text with
  | nil => simp [literal?]
  | cons character behind =>
    simp only [literal?, Option.ite_none_right_eq_some, Option.some.injEq, List.cons.injEq]

theorem takeDigits_cons_of_digit {character : Char} (hdigit : character.isDigit = true) (most : Nat)
    (rest : List Char) :
    takeDigits (most + 1) (character :: rest)
      = (character :: (takeDigits most rest).1, (takeDigits most rest).2) := by
  rw [takeDigits, if_pos hdigit]

theorem takeDigits_cons_of_not_digit {character : Char} (hdigit : character.isDigit ≠ true)
    (most : Nat) (rest : List Char) :
    takeDigits most (character :: rest) = ([], character :: rest) := by
  cases most with
  | zero => rfl
  | succ most => rw [takeDigits, if_neg hdigit]

theorem takeDigits_append {digits : List Char}
    (hdigits : ∀ character ∈ digits, character.isDigit = true) (rest : List Char) :
    takeDigits digits.length (digits ++ rest) = (digits, rest) := by
  induction digits with
  | nil => cases rest <;> rfl
  | cons digit digits ih =>
    rw [List.length_cons, List.cons_append,
      takeDigits_cons_of_digit (hdigits digit List.mem_cons_self),
      ih fun character hmem => hdigits character (List.mem_cons_of_mem digit hmem)]

/-- What is taken are digits at the start of the text. -/
theorem eq_append_of_takeDigits {most : Nat} {text digits rest : List Char}
    (htaken : takeDigits most text = (digits, rest)) :
    text = digits ++ rest ∧ ∀ character ∈ digits, character.isDigit = true := by
  induction most generalizing text digits with
  | zero =>
    obtain ⟨rfl, rfl⟩ := Prod.mk.inj htaken
    exact ⟨rfl, by simp⟩
  | succ most ih =>
    cases text with
    | nil =>
      obtain ⟨rfl, rfl⟩ := Prod.mk.inj htaken
      exact ⟨rfl, by simp⟩
    | cons character behind =>
      by_cases hdigit : character.isDigit = true
      · rw [takeDigits_cons_of_digit hdigit] at htaken
        obtain ⟨rfl, hrest⟩ := Prod.mk.inj htaken
        obtain ⟨hbehind, hdigits⟩ := ih (Prod.ext rfl hrest)
        refine ⟨congrArg (character :: ·) hbehind, ?_⟩
        simpa [hdigit] using hdigits
      · rw [takeDigits_cons_of_not_digit hdigit] at htaken
        obtain ⟨rfl, rfl⟩ := Prod.mk.inj htaken
        exact ⟨rfl, by simp⟩

theorem trimStart_of_black {text : List Char}
    (hblack : ∀ character ∈ text.head?, Text.isBlank character = false) :
    Text.trimStart text = text := by
  cases text with
  | nil => rfl
  | cons character rest =>
    exact List.dropWhile_cons_of_neg (ne_true_of_eq_false (hblack character rfl))

theorem trimStart_of_digit {digit : Char} (hdigit : digit.isDigit = true) (rest : List Char) :
    Text.trimStart (digit :: rest) = digit :: rest :=
  List.dropWhile_cons_of_neg (ne_true_of_eq_false (Text.isBlank_of_isDigit hdigit))

theorem trimStart_trimStart (text : List Char) :
    Text.trimStart (Text.trimStart text) = Text.trimStart text := by
  apply trimStart_of_black
  intro character hfirst
  have hkept := List.head?_dropWhile_not Text.isBlank text
  rw [Text.trimStart] at hfirst
  rw [Option.mem_def.mp hfirst] at hkept
  exact hkept

theorem number?_trimStart (most : Nat) (text : List Char) :
    number? most (Text.trimStart text) = number? most text := by
  rw [number?, trimStart_trimStart, number?]

/-- A number begins with a digit. -/
theorem trimStart_of_number {most number : Nat} {text rest : List Char}
    (hread : number? most text = some (number, rest)) :
    ∃ digit behind, digit.isDigit = true ∧ Text.trimStart text = digit :: behind := by
  obtain ⟨digits, hsome, htaken, -⟩ := number?_eq_some_iff.mp hread
  obtain ⟨hsplit, hdigits⟩ := eq_append_of_takeDigits htaken
  obtain ⟨digit, others, rfl⟩ := List.exists_cons_of_ne_nil hsome
  exact ⟨digit, others ++ rest, hdigits digit List.mem_cons_self, hsplit⟩

theorem year?_eq_some_iff {text rest : List Char} {year : Int} :
    year? text = some (year, rest)
      ↔ (∃ number : Nat, number? 4 text = some (number, rest) ∧ (number : Int) = year)
        ∨ (∃ behind digits, Text.trimStart text = '-' :: behind
            ∧ digits? behind = some (digits, rest) ∧ -(Nat.ofDigitChars 10 digits 0 : Int) = year)
        ∨ (∃ behind digits, Text.trimStart text = '+' :: behind
            ∧ digits? behind = some (digits, rest)
            ∧ (Nat.ofDigitChars 10 digits 0 : Int) = year) := by
  have hunsigned : ∀ sign behind, sign.isDigit = false → Text.trimStart text = sign :: behind →
      ∀ number, number? 4 text ≠ some (number, rest) := by
    intro sign behind hsign htrim number hread
    obtain ⟨digit, after, hdigit, hfirst⟩ := trimStart_of_number hread
    rw [htrim] at hfirst
    rw [← (List.cons.inj hfirst).1, hsign] at hdigit
    cases hdigit
  unfold year?
  split
  · next behind htrim =>
    have hno := hunsigned '-' behind (by decide) htrim
    simp [hno, htrim]
  · next behind htrim =>
    have hno := hunsigned '+' behind (by decide) htrim
    simp [hno, htrim]
  · next hminus hplus =>
    rw [number?_trimStart, map_fst_eq_some_iff]
    constructor
    · exact Or.inl
    · rintro (hnumber | ⟨behind, digits, htrim, -⟩ | ⟨behind, digits, htrim, -⟩)
      · exact hnumber
      · exact absurd htrim (hminus behind)
      · exact absurd htrim (hplus behind)

theorem fraction?_of_ne {character : Char} (hpoint : character ≠ '.') {rest : List Char} :
    fraction? (character :: rest) = some (0, character :: rest) := by
  unfold fraction?
  split
  · next heq => exact absurd (List.cons.inj heq).1 hpoint
  · rfl

theorem sign?_eq_some_iff {text rest : List Char} {sign : Int} :
    sign? text = some (sign, rest)
      ↔ ∃ character, text = character :: rest
          ∧ (character = '+' ∧ sign = 1
            ∨ (character = '-' ∨ character = '\u2212') ∧ sign = -1) := by
  unfold sign?
  split
  · simp [eq_comm, and_comm]
  · simp [eq_comm, and_comm]
  · simp [eq_comm, and_comm]
  · next hplus hminus hlong =>
    simp only [reduceCtorEq, false_iff]
    rintro ⟨character, rfl, ⟨rfl, -⟩ | ⟨rfl | rfl, -⟩⟩
    · exact hplus rest rfl
    · exact hminus rest rfl
    · exact hlong rest rfl

theorem offset?_eq_some_iff {between : List Char → Option (List Char)} {text rest : List Char}
    {offset : Int} :
    offset? between text = some (offset, rest)
      ↔ ∃ sign hours minutes behindSign behindHours atMinutes,
          sign? text = some (sign, behindSign)
            ∧ fixedNumber? 2 behindSign = some (hours, behindHours)
            ∧ between behindHours = some atMinutes
            ∧ fixedNumber? 2 atMinutes = some (minutes, rest)
            ∧ minutes ≤ 59 ∧ sign * (3600 * hours + 60 * minutes : Nat) = offset := by
  unfold offset?
  simp only [Option.bind_eq_bind, Option.bind_eq_some_iff, Prod.exists,
    Option.ite_none_right_eq_some, Option.some.injEq, Prod.mk.injEq]
  constructor
  · rintro ⟨sign, behindSign, hsign, hours, behindHours, hhours, atMinutes, hbetween, minutes, _,
      hminutes, hmost, hoffset, rfl⟩
    exact ⟨sign, hours, minutes, behindSign, behindHours, atMinutes, hsign, hhours, hbetween,
      hminutes, hmost, hoffset⟩
  · rintro ⟨sign, hours, minutes, behindSign, behindHours, atMinutes, hsign, hhours, hbetween,
      hminutes, hmost, hoffset⟩
    exact ⟨sign, behindSign, hsign, hours, behindHours, hhours, atMinutes, hbetween, minutes, rest,
      hminutes, hmost, hoffset, rfl⟩

/-- What an offset of a pattern passes over between its hours and its minutes. -/
def skipColons (text : List Char) : List Char :=
  text.dropWhile fun character => character = ':' || Text.isBlank character

theorem skipColons_of_digit {digit : Char} (hdigit : digit.isDigit = true) (rest : List Char) :
    skipColons (digit :: rest) = digit :: rest := by
  have hcolon : digit ≠ ':' := by
    rintro rfl
    cases hdigit
  apply List.dropWhile_cons_of_neg
  simp [hcolon, Text.isBlank_of_isDigit hdigit]

/-! ## Numbers at their full width -/

theorem eq_cons_of_fixedNumber {width number : Nat} {text rest : List Char} (hwidth : 0 < width)
    (hread : fixedNumber? width text = some (number, rest)) :
    ∃ digit others, digit.isDigit = true ∧ text = digit :: others := by
  obtain ⟨digits, hlength, htaken, -⟩ := fixedNumber?_eq_some_iff.mp hread
  obtain ⟨rfl, hdigits⟩ := eq_append_of_takeDigits htaken
  have hsome : digits ≠ [] := List.length_pos_iff.mp (hlength ▸ hwidth)
  obtain ⟨digit, others, rfl⟩ := List.exists_cons_of_ne_nil hsome
  exact ⟨digit, others ++ rest, hdigits digit List.mem_cons_self, rfl⟩

theorem number?_of_fixedNumber {width number : Nat} {text rest : List Char} (hwidth : 0 < width)
    (hread : fixedNumber? width text = some (number, rest)) :
    number? width text = some (number, rest) := by
  obtain ⟨digits, hlength, htaken, hvalue⟩ := fixedNumber?_eq_some_iff.mp hread
  obtain ⟨digit, others, hdigit, rfl⟩ := eq_cons_of_fixedNumber hwidth hread
  have hsome : digits ≠ [] := List.length_pos_iff.mp (hlength ▸ hwidth)
  refine number?_eq_some_iff.mpr ⟨digits, hsome, ?_, hvalue⟩
  rw [trimStart_of_digit hdigit]
  exact htaken

theorem year?_of_fixedNumber {number : Nat} {text rest : List Char}
    (hread : fixedNumber? 4 text = some (number, rest)) :
    year? text = some ((number : Int), rest) :=
  year?_eq_some_iff.mpr (Or.inl ⟨number, number?_of_fixedNumber (by decide) hread, rfl⟩)

theorem isDigit_of_mem_padded {width number : Nat} {character : Char}
    (hmem : character ∈ Numeral.padded width number) : character.isDigit = true := by
  rcases List.mem_append.mp hmem with hzero | hdigit
  · rw [List.eq_of_mem_replicate hzero]
    rfl
  · exact Nat.isDigit_of_mem_toDigits (by decide) (by decide) hdigit

theorem length_padded {width number : Nat} (hwidth : 0 < width)
    (hnumber : number < Nat.pow 10 width) : (Numeral.padded width number).length = width := by
  have hshort : (Nat.toDigits 10 number).length ≤ width :=
    (Nat.length_toDigits_le_iff (by decide) hwidth).mpr hnumber
  simp only [Numeral.padded, List.length_append, List.length_replicate]
  omega

theorem ofDigitChars_padded (width number : Nat) :
    Nat.ofDigitChars 10 (Numeral.padded width number) 0 = number := by
  simp [Numeral.padded, Nat.ofDigitChars_append, Nat.ofDigitChars_replicate_zero]

theorem fixedNumber?_padded {width number : Nat} (hwidth : 0 < width)
    (hnumber : number < Nat.pow 10 width) (rest : List Char) :
    fixedNumber? width (Numeral.padded width number ++ rest) = some (number, rest) := by
  have hlength := length_padded hwidth hnumber
  have htaken : takeDigits (Numeral.padded width number).length
      (Numeral.padded width number ++ rest) = (Numeral.padded width number, rest) :=
    takeDigits_append (fun _ => isDigit_of_mem_padded) rest
  rw [hlength] at htaken
  exact fixedNumber?_eq_some_iff.mpr ⟨_, hlength, htaken, ofDigitChars_padded width number⟩

theorem number?_padded {number : Nat} (hnumber : number < 100) (rest : List Char) :
    number? 2 (Numeral.padded 2 number ++ rest) = some (number, rest) :=
  number?_of_fixedNumber (by decide) (fixedNumber?_padded (by decide) hnumber rest)

theorem year?_padded {number : Nat} (hnumber : number < 10000) (rest : List Char) :
    year? (Numeral.padded 4 number ++ rest) = some ((number : Int), rest) :=
  year?_of_fixedNumber (fixedNumber?_padded (by decide) hnumber rest)

/-! ## Patterns -/

/-- Reads the start of a text by a pattern. -/
def Pattern.scan? : Pattern → Fields → List Char → Option (Fields × List Char)
  | [], fields, text => some (fields, text)
  | item :: pattern, fields, text => do
    let (fields, rest) ← item.scan? fields text
    Pattern.scan? pattern fields rest

theorem scan?_cons_eq_some_iff {item : Item} {pattern : Pattern} {fields found : Fields}
    {text rest : List Char} :
    Pattern.scan? (item :: pattern) fields text = some (found, rest)
      ↔ ∃ entered between, item.scan? fields text = some (entered, between)
          ∧ pattern.scan? entered between = some (found, rest) := by
  simp [Pattern.scan?, Option.bind_eq_some_iff]

theorem scan?_append_eq_some_iff {first second : Pattern} {fields found : Fields}
    {text rest : List Char} :
    Pattern.scan? (first ++ second) fields text = some (found, rest)
      ↔ ∃ entered between, first.scan? fields text = some (entered, between)
          ∧ second.scan? entered between = some (found, rest) := by
  induction first generalizing fields text with
  | nil => simp [Pattern.scan?]
  | cons item first ih =>
    simp only [List.cons_append, scan?_cons_eq_some_iff, ih]
    constructor
    · rintro ⟨entered, between, hitem, last, behind, hfirst, hsecond⟩
      exact ⟨last, behind, ⟨entered, between, hitem, hfirst⟩, hsecond⟩
    · rintro ⟨last, behind, ⟨entered, between, hitem, hfirst⟩, hsecond⟩
      exact ⟨entered, between, hitem, last, behind, hfirst, hsecond⟩

theorem fields?_eq_some_iff {pattern : Pattern} {fields found : Fields} {text : List Char} :
    pattern.fields? fields text = some found ↔ pattern.scan? fields text = some (found, []) := by
  induction pattern generalizing fields text with
  | nil => simp [Pattern.fields?, Pattern.scan?, and_comm]
  | cons item pattern ih =>
    simp [Pattern.fields?, Pattern.scan?, Option.bind_eq_some_iff, ih]

theorem instant?_eq_some_iff {pattern : Pattern} {text : List Char} {instant : Instant} :
    pattern.instant? text = some instant
      ↔ ∃ found, pattern.scan? .blank text = some (found, []) ∧ found.instant? = some instant := by
  simp [Pattern.instant?, Option.bind_eq_some_iff, fields?_eq_some_iff]

/-! ## Letters for UTC -/

/-- What a time without an offset can end in: nothing, or one letter for UTC. -/
def IsZulu (ending : List Char) : Prop := ending = [] ∨ ending = ['Z'] ∨ ending = ['z']

instance (ending : List Char) : Decidable (IsZulu ending) := inferInstanceAs (Decidable (_ ∨ _))

theorem dropZulu_append_of_digit {text : List Char} {digit : Char} (hdigit : digit.isDigit = true)
    (hlast : text.getLast? = some digit) {ending : List Char} (hending : IsZulu ending) :
    dropZulu (text ++ ending) = text := by
  rcases hending with rfl | rfl | rfl
  · have hgreat : digit ≠ 'Z' := by
      rintro rfl
      cases hdigit
    have hsmall : digit ≠ 'z' := by
      rintro rfl
      cases hdigit
    rw [List.append_nil, dropZulu, hlast]
    simp [hgreat, hsmall]
  · simp [dropZulu]
  · simp [dropZulu]

theorem eq_dropZulu_append (text : List Char) :
    ∃ ending, IsZulu ending ∧ text = dropZulu text ++ ending := by
  rcases List.eq_nil_or_concat text with rfl | ⟨front, last, rfl⟩
  · exact ⟨[], Or.inl rfl, rfl⟩
  · by_cases hgreat : last = 'Z'
    · refine ⟨['Z'], Or.inr (Or.inl rfl), ?_⟩
      simp [dropZulu, hgreat]
    · by_cases hsmall : last = 'z'
      · refine ⟨['z'], Or.inr (Or.inr rfl), ?_⟩
        simp [dropZulu, hsmall]
      · refine ⟨[], Or.inl rfl, ?_⟩
        simp [dropZulu, hgreat, hsmall]

/-- A reader that leaves a letter for UTC behind a text alone. -/
def IgnoresZulu {Value : Type} (reader : List Char → Option (Value × List Char)) : Prop :=
  ∀ ⦃text value rest ending⦄, IsZulu ending → reader text = some (value, rest) →
    reader (text ++ ending) = some (value, rest ++ ending)

theorem dropWhile_append_of_zulu {test : Char → Bool} (hgreat : test 'Z' = false)
    (hsmall : test 'z' = false) {ending : List Char} (hending : IsZulu ending) (text : List Char) :
    (text ++ ending).dropWhile test = text.dropWhile test ++ ending := by
  have hkept : ending.dropWhile test = ending := by
    rcases hending with rfl | rfl | rfl
    · rfl
    · exact List.dropWhile_cons_of_neg (ne_true_of_eq_false hgreat)
    · exact List.dropWhile_cons_of_neg (ne_true_of_eq_false hsmall)
  rw [List.dropWhile_append]
  split
  · next hempty => rw [hkept, List.isEmpty_iff.mp hempty, List.nil_append]
  · rfl

theorem trimStart_append_of_zulu {ending : List Char} (hending : IsZulu ending)
    (text : List Char) : Text.trimStart (text ++ ending) = Text.trimStart text ++ ending :=
  dropWhile_append_of_zulu (by decide) (by decide) hending text

theorem takeDigits_append_of_zulu {most : Nat} {text digits rest ending : List Char}
    (hending : IsZulu ending) (htaken : takeDigits most text = (digits, rest)) :
    takeDigits most (text ++ ending) = (digits, rest ++ ending) := by
  induction most generalizing text digits with
  | zero =>
    obtain ⟨rfl, rfl⟩ := Prod.mk.inj htaken
    rfl
  | succ most ih =>
    cases text with
    | nil =>
      obtain ⟨rfl, rfl⟩ := Prod.mk.inj htaken
      rcases hending with rfl | rfl | rfl <;> rfl
    | cons character behind =>
      rw [List.cons_append]
      by_cases hdigit : character.isDigit = true
      · rw [takeDigits_cons_of_digit hdigit] at htaken ⊢
        obtain ⟨rfl, hrest⟩ := Prod.mk.inj htaken
        rw [ih (Prod.ext rfl hrest)]
      · rw [takeDigits_cons_of_not_digit hdigit] at htaken ⊢
        obtain ⟨rfl, rfl⟩ := Prod.mk.inj htaken
        rfl

theorem ignoresZulu_number (most : Nat) : IgnoresZulu (number? most) := by
  intro text number rest ending hending hread
  obtain ⟨digits, hsome, htaken, hvalue⟩ := number?_eq_some_iff.mp hread
  refine number?_eq_some_iff.mpr ⟨digits, hsome, ?_, hvalue⟩
  rw [trimStart_append_of_zulu hending]
  exact takeDigits_append_of_zulu hending htaken

theorem ignoresZulu_fixedNumber (width : Nat) : IgnoresZulu (fixedNumber? width) := by
  intro text number rest ending hending hread
  obtain ⟨digits, hlength, htaken, hvalue⟩ := fixedNumber?_eq_some_iff.mp hread
  exact fixedNumber?_eq_some_iff.mpr
    ⟨digits, hlength, takeDigits_append_of_zulu hending htaken, hvalue⟩

theorem ignoresZulu_digits : IgnoresZulu digits? := by
  intro text digits rest ending hending hread
  obtain ⟨hsome, htaken, hdropped⟩ := digits?_eq_some_iff.mp hread
  have hbehind : (text ++ ending).dropWhile Char.isDigit = rest ++ ending := by
    rw [dropWhile_append_of_zulu (by decide) (by decide) hending, hdropped]
  have hsplit : digits ++ (rest ++ ending) = text ++ ending := by
    rw [← List.append_assoc, ← htaken, ← hdropped, List.takeWhile_append_dropWhile]
  refine digits?_eq_some_iff.mpr ⟨hsome, ?_, hbehind⟩
  have hwhole := List.takeWhile_append_dropWhile (p := Char.isDigit) (l := text ++ ending)
  rw [hbehind, ← hsplit] at hwhole
  rw [← hsplit]
  exact List.append_cancel_right hwhole

theorem ignoresZulu_year : IgnoresZulu year? := by
  intro text year rest ending hending hread
  rw [year?_eq_some_iff] at hread ⊢
  rw [trimStart_append_of_zulu hending]
  rcases hread with ⟨number, hnumber, hyear⟩ | ⟨behind, digits, htrim, hdigits, hyear⟩
    | ⟨behind, digits, htrim, hdigits, hyear⟩
  · exact Or.inl ⟨number, ignoresZulu_number 4 hending hnumber, hyear⟩
  · refine Or.inr (Or.inl ⟨behind ++ ending, digits, ?_, ?_, hyear⟩)
    · rw [htrim, List.cons_append]
    · exact ignoresZulu_digits hending hdigits
  · refine Or.inr (Or.inr ⟨behind ++ ending, digits, ?_, ?_, hyear⟩)
    · rw [htrim, List.cons_append]
    · exact ignoresZulu_digits hending hdigits

theorem ignoresZulu_fraction : IgnoresZulu fraction? := by
  intro text nano rest ending hending hread
  cases text with
  | nil =>
    obtain ⟨rfl, rfl⟩ := Prod.mk.inj (Option.some.inj hread)
    rcases hending with rfl | rfl | rfl <;> rfl
  | cons character behind =>
    by_cases hpoint : character = '.'
    · subst hpoint
      obtain ⟨⟨digits, after⟩, hdigits, hnano⟩ := Option.map_eq_some_iff.mp hread
      obtain ⟨rfl, rfl⟩ := Prod.mk.inj hnano
      exact Option.map_eq_some_iff.mpr
        ⟨(digits, after ++ ending), ignoresZulu_digits hending hdigits, rfl⟩
    · rw [fraction?_of_ne hpoint] at hread
      obtain ⟨rfl, rfl⟩ := Prod.mk.inj (Option.some.inj hread)
      exact fraction?_of_ne hpoint

theorem ignoresZulu_sign : IgnoresZulu sign? := by
  intro text sign rest ending hending hread
  obtain ⟨character, rfl, hsign⟩ := sign?_eq_some_iff.mp hread
  exact sign?_eq_some_iff.mpr ⟨character, rfl, hsign⟩

theorem ignoresZulu_offset :
    IgnoresZulu fun text => offset? (fun rest => some (skipColons rest)) (Text.trimStart text) := by
  intro text offset rest ending hending hread
  obtain ⟨sign, hours, minutes, behindSign, behindHours, atMinutes, hsign, hhours, hbetween,
    hminutes, hmost, hoffset⟩ := offset?_eq_some_iff.mp hread
  refine offset?_eq_some_iff.mpr ⟨sign, hours, minutes, behindSign ++ ending,
    behindHours ++ ending, atMinutes ++ ending, ?_, ?_, ?_, ?_, hmost, hoffset⟩
  · rw [trimStart_append_of_zulu hending]
    exact ignoresZulu_sign hending hsign
  · exact ignoresZulu_fixedNumber 2 hending hhours
  · rw [← Option.some.inj hbetween, skipColons, skipColons,
      dropWhile_append_of_zulu (by decide) (by decide) hending]
  · exact ignoresZulu_fixedNumber 2 hending hminutes

theorem IgnoresZulu.map {First Second : Type} {reader : List Char → Option (First × List Char)}
    (hreader : IgnoresZulu reader) (change : First → Second) :
    IgnoresZulu fun text => (reader text).map fun (first, rest) => (change first, rest) := by
  intro text value rest ending hending hread
  obtain ⟨first, hfirst, hvalue⟩ := map_fst_eq_some_iff.mp hread
  exact map_fst_eq_some_iff.mpr ⟨first, hreader hending hfirst, hvalue⟩

theorem ignoresZulu_item (item : Item) (fields : Fields) : IgnoresZulu (item.scan? fields) := by
  cases item with
  | year => exact ignoresZulu_year.map fun value => { fields with date.year := value }
  | month => exact (ignoresZulu_number 2).map fun value => { fields with date.month := value }
  | day => exact (ignoresZulu_number 2).map fun value => { fields with date.day := value }
  | hour => exact (ignoresZulu_number 2).map fun value => { fields with hour := value }
  | minute => exact (ignoresZulu_number 2).map fun value => { fields with minute := value }
  | second => exact (ignoresZulu_number 2).map fun value => { fields with second := value }
  | fraction => exact ignoresZulu_fraction.map fun value => { fields with nano := value }
  | offset => exact ignoresZulu_offset.map fun value => { fields with offset := value }
  | colonOffset => exact ignoresZulu_offset.map fun value => { fields with offset := value }
  | space =>
    intro text value rest ending hending hread
    obtain ⟨rfl, rfl⟩ := Prod.mk.inj (Option.some.inj hread)
    exact congrArg (fun rest => some (fields, rest)) (trimStart_append_of_zulu hending text)
  | literal character =>
    intro text value rest ending hending hread
    obtain ⟨behind, hliteral, hvalue⟩ := Option.map_eq_some_iff.mp hread
    obtain ⟨rfl, rfl⟩ := Prod.mk.inj hvalue
    refine Option.map_eq_some_iff.mpr ⟨behind ++ ending, literal?_eq_some_iff.mpr ?_, rfl⟩
    rw [literal?_eq_some_iff.mp hliteral, List.cons_append]

theorem ignoresZulu_pattern (pattern : Pattern) (fields : Fields) :
    IgnoresZulu (pattern.scan? fields) := by
  induction pattern generalizing fields with
  | nil =>
    intro text found rest ending hending hread
    obtain ⟨rfl, rfl⟩ := Prod.mk.inj (Option.some.inj hread)
    rfl
  | cons item pattern ih =>
    intro text found rest ending hending hread
    obtain ⟨entered, between, hitem, hpattern⟩ := scan?_cons_eq_some_iff.mp hread
    exact scan?_cons_eq_some_iff.mpr ⟨entered, between ++ ending,
      ignoresZulu_item item fields hending hitem, ih entered hending hpattern⟩

end AddressBoard.Calendar

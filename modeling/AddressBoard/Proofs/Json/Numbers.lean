import AddressBoard.Proofs.Json.Texts

/-!
# Reading numbers

The lexeme of a number is found if the number has come to its end. Of the values only the integers
matter: which lexemes have one, and which one.
-/

namespace AddressBoard.Json

/-! ## Lexemes that are read -/

theorem head?_any_of_imp {test other : Char → Bool} {source : List Char}
    (himp : ∀ character, test character = true → other character = true)
    (hother : source.head?.any other = false) : source.head?.any test = false := by
  cases source with
  | nil => rfl
  | cons character source =>
    apply eq_false_of_ne_true
    intro htest
    exact absurd (himp character htest) (ne_true_of_eq_false hother)

theorem digits_of_spelled {digits source rest : List Char}
    (hdigits : DigitsSpelled digits source rest) (hend : rest.head?.any Char.isDigit = false)
    (atEnd : Cause) : Json.digits atEnd source = .ok (digits, rest) := by
  obtain ⟨rfl, hsome, hall⟩ := hdigits
  have hstop : rest.takeWhile Char.isDigit = [] ∧ rest.dropWhile Char.isDigit = rest := by
    cases rest with
    | nil => exact ⟨rfl, rfl⟩
    | cons character rest =>
      have hother : character.isDigit = false := hend
      simp [hother]
  unfold Json.digits
  rw [List.takeWhile_append_of_pos hall, List.dropWhile_append_of_pos hall, hstop.1, hstop.2,
    List.append_nil]
  cases digits with
  | nil => exact absurd rfl hsome
  | cons digit digits => rfl

theorem whole_of_spelled {digits source rest : List Char}
    (hdigits : DigitsSpelled digits source rest)
    (hzero : digits.head? = some '0' → digits = ['0'])
    (hend : rest.head?.any Char.isDigit = false) (atEnd : Cause) :
    whole atEnd source = .ok (digits, rest) := by
  unfold whole
  split
  · next behind =>
    have hsource := hdigits.source_eq
    cases hcase : digits with
    | nil => exact absurd hcase hdigits.ne_nil
    | cons digit others =>
      rw [hcase] at hsource hzero
      obtain ⟨rfl, htail⟩ := List.cons.inj hsource
      obtain rfl : others = [] := (List.cons.inj (hzero rfl)).2
      have hbehind : behind = rest := htail
      rw [hbehind, hend]
      rfl
  · exact digits_of_spelled hdigits hend atEnd

theorem fraction_of_spelled {digits source rest : List Char}
    (hfraction : FractionSpelled digits source rest)
    (hend : rest.head?.any (fun next => next.isDigit || next = '.') = false) (atEnd : Cause) :
    fraction atEnd source = .ok (digits, rest) := by
  cases hfraction with
  | missing =>
    unfold fraction
    split
    · cases hend
    · rfl
  | digits hdigits =>
    rw [fraction]
    exact digits_of_spelled hdigits (head?_any_of_imp (by simp +contextual) hend) atEnd

theorem DigitsSpelled.head_cons {digits source rest : List Char}
    (hdigits : DigitsSpelled digits source rest) :
    ∃ digit behind, source = digit :: behind ∧ digit.isDigit = true := by
  obtain ⟨rfl, hsome, hall⟩ := hdigits
  cases digits with
  | nil => exact absurd rfl hsome
  | cons digit digits => exact ⟨digit, _, rfl, hall digit List.mem_cons_self⟩

theorem exponentSign_of_spelled {digits source rest : List Char}
    (hdigits : DigitsSpelled digits source rest) : exponentSign source = (false, source) := by
  obtain ⟨digit, behind, rfl, hdigit⟩ := hdigits.head_cons
  unfold exponentSign
  split
  · next heq =>
    cases heq
    cases hdigit
  · next heq =>
    cases heq
    cases hdigit
  · rfl

theorem exponent_of_mark {mark : Char} (hmark : mark = 'e' ∨ mark = 'E') {isNegative : Bool}
    {digits source behind rest : List Char} (hsign : exponentSign source = (isNegative, behind))
    (hdigits : DigitsSpelled digits behind rest) (hend : rest.head?.any Char.isDigit = false)
    (atEnd : Cause) :
    exponent atEnd (mark :: source) = .ok (some (isNegative, digits), rest) := by
  rcases hmark with rfl | rfl
  · simp [exponent, hsign, digits_of_spelled hdigits hend, bind, Except.bind, pure, Except.pure]
  · simp [exponent, hsign, digits_of_spelled hdigits hend, bind, Except.bind, pure, Except.pure]

theorem exponent_of_spelled {exponent? : Option (Bool × List Char)} {source rest : List Char}
    (hexponent : ExponentSpelled exponent? source rest) (hend : EndsNumber rest)
    (atEnd : Cause) : exponent atEnd source = .ok (exponent?, rest) := by
  have hdigit : rest.head?.any Char.isDigit = false :=
    head?_any_of_imp (by simp +contextual [extendsNumber]) hend
  cases hexponent with
  | missing =>
    unfold exponent
    split
    · cases hend
    · cases hend
    · rfl
  | unsigned hmark hdigits =>
    exact exponent_of_mark hmark (exponentSign_of_spelled hdigits) hdigits hdigit atEnd
  | plus hmark hdigits => exact exponent_of_mark hmark rfl hdigits hdigit atEnd
  | minus hmark hdigits => exact exponent_of_mark hmark rfl hdigits hdigit atEnd

theorem ExponentSpelled.head?_any {exponent? : Option (Bool × List Char)}
    {source rest : List Char} (hexponent : ExponentSpelled exponent? source rest)
    (hend : EndsNumber rest) :
    source.head?.any (fun next => next.isDigit || next = '.') = false := by
  cases hexponent with
  | missing => exact head?_any_of_imp (by simp +contextual [extendsNumber]) hend
  | unsigned hmark _ | plus hmark _ | minus hmark _ => rcases hmark with rfl | rfl <;> rfl

/-- A fraction begins with a point, so it ends the digits before it. -/
theorem FractionSpelled.head?_any {digits source rest : List Char}
    (hfraction : FractionSpelled digits source rest)
    (hend : rest.head?.any (fun next => next.isDigit || next = '.') = false) :
    source.head?.any Char.isDigit = false := by
  cases hfraction with
  | missing => exact head?_any_of_imp (by simp +contextual) hend
  | digits => rfl

theorem lexeme_of_spelled {number : Lexeme} {source rest : List Char}
    (hnumber : LexemeSpelled number source rest) (hend : EndsNumber rest) (atEnd : Cause) :
    lexeme atEnd source = .ok (number, rest) := by
  obtain ⟨hsign, hwhole, hzero, hfraction, hexponent⟩ := hnumber
  have hbehindFraction := hexponent.head?_any hend
  have hbehindWhole := hfraction.head?_any hbehindFraction
  have hreadWhole := whole_of_spelled hwhole hzero hbehindWhole atEnd
  have hreadFraction := fraction_of_spelled hfraction hbehindFraction atEnd
  have hreadExponent := exponent_of_spelled hexponent hend atEnd
  obtain ⟨isNegative, digits, places, exponent?⟩ := number
  cases isNegative with
  | true =>
    rw [hsign]
    simp [lexeme, hreadWhole, hreadFraction, hreadExponent, bind, Except.bind, pure, Except.pure]
  | false =>
    obtain ⟨digit, behind, hbehind, hdigit⟩ := hwhole.head_cons
    have hplain : digit ≠ '-' := by
      rintro rfl
      cases hdigit
    rw [hsign, hbehind]
    rw [hbehind] at hreadWhole
    simp [lexeme, hplain, hreadWhole, hreadFraction, hreadExponent, bind, Except.bind, pure,
      Except.pure]

/-! ## Lexemes that are accepted -/

def Number.integer? : Number → Option Int
  | .integer value => some value
  | .float _ => none

/-- The integer that a lexeme names. It has no fraction and no exponent, and minus zero is none. -/
def Lexeme.integer? (lexeme : Lexeme) : Option Int :=
  let number := Nat.ofDigitChars 10 lexeme.whole 0
  if lexeme.fraction = [] ∧ lexeme.exponent? = none ∧ ¬ (lexeme.isNegative ∧ number = 0) then
    some (if lexeme.isNegative then -number else number)
  else none

theorem le_ofDigitChars (digits : List Char) (significand : Nat) :
    significand ≤ Nat.ofDigitChars 10 digits significand := by
  rw [Nat.ofDigitChars_eq_ofDigitChars_zero]
  have hpos : 0 < 10 ^ digits.length := Nat.pow_pos (by decide)
  exact Nat.le_trans (Nat.le_mul_of_pos_left _ hpos) (Nat.le_add_right _ _)

theorem takeWhole_of_le {significand : Nat} {digits : List Char}
    (hfits : Nat.ofDigitChars 10 digits significand ≤ greatestSignificand) :
    takeWhole significand digits = (Nat.ofDigitChars 10 digits significand, 0) := by
  induction digits generalizing significand with
  | nil => rfl
  | cons digit digits ih =>
    rw [Nat.ofDigitChars_cons] at hfits ⊢
    have hnext := Nat.le_trans (le_ofDigitChars digits _) hfits
    rw [takeWhole, withDigit, if_pos hnext]
    exact ih hfits

theorem takeWhole_of_lt {significand : Nat} {digits : List Char}
    (hsignificand : significand ≤ greatestSignificand)
    (hlong : greatestSignificand < Nat.ofDigitChars 10 digits significand) :
    (takeWhole significand digits).2 ≠ 0 := by
  induction digits generalizing significand with
  | nil => exact absurd hlong (Nat.not_lt_of_le hsignificand)
  | cons digit digits ih =>
    rw [Nat.ofDigitChars_cons] at hlong
    rw [takeWhole]
    by_cases hnext : withDigit significand digit ≤ greatestSignificand
    · rw [if_pos hnext]
      exact ih hnext hlong
    · rw [if_neg hnext]
      exact Nat.succ_ne_zero _

/-- What is not written as an integer that fits is no integer, whatever its value is. -/
theorem integer?_value_of_float {lexeme : Lexeme} (hfloat : ¬ (lexeme.fraction = []
    ∧ lexeme.exponent?.isNone ∧ (takeWhole 0 lexeme.whole).2 = 0)) (rest : List Char) :
    (lexeme.value rest).toOption.bind Number.integer? = none := by
  unfold Lexeme.value
  simp only [if_neg hfloat]
  split
  · split <;> rfl
  · split <;> rfl

theorem integerValue_eq (isNegative : Bool) (number : Nat) :
    (integerValue isNegative number).integer?
      = if isNegative then
          if 1 ≤ number ∧ number ≤ greatestNegated then some (-number : Int) else none
        else some (number : Int) := by
  unfold integerValue
  cases isNegative with
  | false => rfl
  | true =>
    simp only [not_true_eq_false, if_false, if_true]
    split <;> rfl

theorem Lexeme.integer?_of_plain {lexeme : Lexeme} (hfraction : lexeme.fraction = [])
    (hexponent : lexeme.exponent? = none) {number : Nat}
    (hnumber : Nat.ofDigitChars 10 lexeme.whole 0 = number) :
    lexeme.integer?
      = if lexeme.isNegative ∧ number = 0 then none
        else some (if lexeme.isNegative then -(number : Int) else number) := by
  simp only [Lexeme.integer?, hfraction, hexponent, true_and, hnumber, ite_not]

/-- A number that fits without its sign is read as an integer unless the sign takes it too far. -/
theorem integer?_integerValue (isNegative : Bool) {number : Nat}
    (hfits : number ≤ greatestSignificand) :
    (integerValue isNegative number).integer?
      = (if isNegative ∧ number = 0 then none
          else some (if isNegative then -(number : Int) else number)).filter fun value =>
            -(greatestNegated : Int) ≤ value ∧ value ≤ greatestSignificand := by
  rw [integerValue_eq]
  cases isNegative with
  | false =>
    have hrange : -(greatestNegated : Int) ≤ number ∧ (number : Int) ≤ greatestSignificand := by
      omega
    simp [Option.filter, hrange]
  | true =>
    by_cases hzero : number = 0
    · simp [hzero]
    · by_cases hnegated : number ≤ greatestNegated
      · have hrange : -(greatestNegated : Int) ≤ -number
            ∧ -(number : Int) ≤ greatestSignificand := by
          omega
        have hpos : 1 ≤ number := by omega
        simp [Option.filter, hzero, hpos, hnegated, hrange]
      · have hrange : ¬ -(greatestNegated : Int) ≤ -number := by omega
        simp [Option.filter, hzero, hnegated, hrange]

theorem filter_of_long (isNegative : Bool) {number : Nat} (hlong : greatestSignificand < number) :
    ((if isNegative ∧ number = 0 then none
        else some (if isNegative then -(number : Int) else number)).filter fun value =>
          decide (-(greatestNegated : Int) ≤ value ∧ value ≤ greatestSignificand)) = none := by
  have hhigh : ¬ (number : Int) ≤ greatestSignificand := by omega
  have hlow : ¬ -(greatestNegated : Int) ≤ -number := by
    unfold greatestNegated
    unfold greatestSignificand at hlong
    omega
  cases isNegative with
  | false => simp [Option.filter, hhigh]
  | true =>
    have hzero : number ≠ 0 := Nat.ne_of_gt (Nat.zero_lt_of_lt hlong)
    simp [Option.filter, hzero, hlow]

/-- An integer within 64 bits, with or without a sign, is read as an integer; nothing else is. -/
theorem integer?_value (lexeme : Lexeme) (rest : List Char) :
    (lexeme.value rest).toOption.bind Number.integer?
      = lexeme.integer?.filter fun value =>
          -(greatestNegated : Int) ≤ value ∧ value ≤ greatestSignificand := by
  by_cases hplain : lexeme.fraction = [] ∧ lexeme.exponent? = none
  · obtain ⟨hfraction, hexponent⟩ := hplain
    rw [Lexeme.integer?_of_plain hfraction hexponent rfl]
    by_cases hfits : Nat.ofDigitChars 10 lexeme.whole 0 ≤ greatestSignificand
    · have hvalue : lexeme.value rest
          = .ok (integerValue lexeme.isNegative (Nat.ofDigitChars 10 lexeme.whole 0)) := by
        simp [Lexeme.value, hfraction, hexponent, takeWhole_of_le hfits]
      rw [hvalue]
      exact integer?_integerValue lexeme.isNegative hfits
    · have hlong := Nat.lt_of_not_le hfits
      have hleft : (takeWhole 0 lexeme.whole).2 ≠ 0 := takeWhole_of_lt (Nat.zero_le _) hlong
      rw [integer?_value_of_float (fun hall => hleft hall.2.2)]
      exact (filter_of_long lexeme.isNegative hlong).symm
  · have hnone : lexeme.integer? = none := by
      apply if_neg
      rintro ⟨hfraction, hexponent, -⟩
      exact hplain ⟨hfraction, hexponent⟩
    rw [hnone, integer?_value_of_float]
    · rfl
    · rintro ⟨hfraction, hexponent, -⟩
      exact hplain ⟨hfraction, Option.isNone_iff_eq_none.mp hexponent⟩

end AddressBoard.Json

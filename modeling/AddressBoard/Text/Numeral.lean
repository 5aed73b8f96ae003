/-!
# Decimal numerals

Numerals are written with `Nat.toDigits 10` and read by the plain grammar of an optional sign and
one or more ASCII digits. Leading zeros are read, and a value that leaves its range is refused.
-/

namespace AddressBoard.Numeral

/-- The greatest unsigned number that is read, of 32 bits. -/
def greatestUnsigned : Nat := 4294967295

/-- The least signed number that is read, of 64 bits. -/
def leastSigned : Int := -9223372036854775808

/-- The greatest signed number that is read, of 64 bits. -/
def greatestSigned : Int := 9223372036854775807

/-- The digits of a number, filled up with zeros on the left to at least `width` characters. -/
def padded (width number : Nat) : List Char :=
  let digits := Nat.toDigits 10 number
  List.replicate (width - digits.length) '0' ++ digits

/-- The value of a text of one or more digits. -/
def read? (text : List Char) : Option Nat :=
  if text ≠ [] ∧ text.all Char.isDigit then some (Nat.ofDigitChars 10 text 0) else none

/-- Reads digits after an optional plus sign, up to `greatestUnsigned`. -/
def readUnsigned? (text : List Char) : Option Nat :=
  let digits := match text with
    | '+' :: rest => rest
    | _ => text
  (read? digits).filter (· ≤ greatestUnsigned)

/-- Reads digits after an optional sign, from `leastSigned` to `greatestSigned`. -/
def readSigned? (text : List Char) : Option Int :=
  let number? : Option Int := match text with
    | '-' :: rest => (read? rest).map fun number => -(number : Int)
    | '+' :: rest => (read? rest).map Int.ofNat
    | _ => (read? text).map Int.ofNat
  number?.filter fun number => leastSigned ≤ number ∧ number ≤ greatestSigned

/-- An unsigned numeral: an optional plus sign and one or more digits, of a value within the
limit. -/
def IsUnsigned (text : List Char) (number : Nat) : Prop :=
  ∃ sign digits, text = sign ++ digits ∧ (sign = [] ∨ sign = ['+'])
    ∧ digits ≠ [] ∧ (∀ character ∈ digits, character.isDigit = true)
    ∧ Nat.ofDigitChars 10 digits 0 = number ∧ number ≤ greatestUnsigned

/-- A numeral: one or more digits. -/
def IsDigits (text : List Char) (number : Nat) : Prop :=
  text ≠ [] ∧ (∀ character ∈ text, character.isDigit = true)
    ∧ Nat.ofDigitChars 10 text 0 = number

/-- A signed numeral: digits behind an optional sign, of any value. -/
inductive IsSigned : List Char → Int → Prop where
  | bare {text : List Char} {number : Nat} (digits : IsDigits text number) : IsSigned text number
  | plus {text : List Char} {number : Nat} (digits : IsDigits text number) :
      IsSigned ('+' :: text) number
  | minus {text : List Char} {number : Nat} (digits : IsDigits text number) :
      IsSigned ('-' :: text) (-number)

theorem read?_eq_some_iff {text : List Char} {number : Nat} :
    read? text = some number ↔ text ≠ [] ∧ (∀ character ∈ text, character.isDigit = true)
      ∧ Nat.ofDigitChars 10 text 0 = number := by
  simp [read?, and_assoc]

theorem readUnsigned?_eq_some_iff {text : List Char} {number : Nat} :
    readUnsigned? text = some number ↔ IsUnsigned text number := by
  unfold readUnsigned? IsUnsigned
  simp only [Option.filter_eq_some_iff, read?_eq_some_iff, decide_eq_true_eq]
  split
  · next rest =>
    constructor
    · rintro ⟨⟨nonempty, digits, value⟩, limit⟩
      exact ⟨['+'], rest, rfl, Or.inr rfl, nonempty, digits, value, limit⟩
    · rintro ⟨sign, digits, parted, rfl | rfl, nonempty, allDigits, value, limit⟩
      · have member : '+' ∈ digits := by
          rw [List.nil_append] at parted
          rw [← parted]
          exact List.mem_cons_self
        exact absurd (allDigits '+' member) (by decide)
      · obtain rfl := List.cons.inj parted |>.2
        exact ⟨⟨nonempty, allDigits, value⟩, limit⟩
  · next unsigned =>
    constructor
    · rintro ⟨⟨nonempty, digits, value⟩, limit⟩
      exact ⟨[], text, rfl, Or.inl rfl, nonempty, digits, value, limit⟩
    · rintro ⟨sign, digits, parted, rfl | rfl, nonempty, allDigits, value, limit⟩
      · obtain rfl := parted
        exact ⟨⟨nonempty, allDigits, value⟩, limit⟩
      · exact absurd parted (unsigned digits)

theorem isDigits_toDigits (number : Nat) : IsDigits (Nat.toDigits 10 number) number :=
  ⟨Nat.toDigits_ne_nil,
    fun _ member => Nat.isDigit_of_mem_toDigits (by decide) (by decide) member,
    Nat.ofDigitChars_toDigits (by decide) (by decide)⟩

theorem read?_toDigits (number : Nat) : read? (Nat.toDigits 10 number) = some number :=
  read?_eq_some_iff.mpr (isDigits_toDigits number)

theorem isUnsigned_toDigits {number : Nat} (limit : number ≤ greatestUnsigned) :
    IsUnsigned (Nat.toDigits 10 number) number := by
  obtain ⟨nonempty, allDigits, value⟩ := isDigits_toDigits number
  exact ⟨[], Nat.toDigits 10 number, rfl, Or.inl rfl, nonempty, allDigits, value, limit⟩

/-- A number is read from its numerals if it is within the limits. -/
theorem readSigned?_eq_some_iff {text : List Char} {number : Int} :
    readSigned? text = some number
      ↔ IsSigned text number ∧ leastSigned ≤ number ∧ number ≤ greatestSigned := by
  unfold readSigned?
  simp only [Option.filter_eq_some_iff, decide_eq_true_eq]
  apply and_congr_left
  intro limits
  constructor
  · intro read
    split at read
    · obtain ⟨_, widened, rfl⟩ := Option.map_eq_some_iff.mp read
      obtain ⟨magnitude, digits, same⟩ := Option.bind_eq_some_iff.mp widened
      rw [← Option.some.inj same]
      exact .minus (read?_eq_some_iff.mp digits)
    · obtain ⟨magnitude, digits, rfl⟩ := Option.map_eq_some_iff.mp read
      exact .plus (read?_eq_some_iff.mp digits)
    · obtain ⟨magnitude, digits, rfl⟩ := Option.map_eq_some_iff.mp read
      exact .bare (read?_eq_some_iff.mp digits)
  · intro signed
    cases signed with
    | bare digits =>
      have unsigned : ∀ sign rest, sign.isDigit = false → text ≠ sign :: rest := by
        rintro sign rest other rfl
        have digit := digits.2.1 sign List.mem_cons_self
        rw [other] at digit
        cases digit
      split
      · next rest => exact absurd rfl (unsigned '-' rest (by decide))
      · next rest => exact absurd rfl (unsigned '+' rest (by decide))
      · exact Option.map_eq_some_iff.mpr ⟨_, read?_eq_some_iff.mpr digits, rfl⟩
    | plus digits => exact Option.map_eq_some_iff.mpr ⟨_, read?_eq_some_iff.mpr digits, rfl⟩
    | minus digits => simp [read?_eq_some_iff.mpr digits]

theorem isSigned_toString (number : Int) : IsSigned (toString number).toList number := by
  rw [Int.toString_eq_repr]
  cases number with
  | ofNat magnitude =>
    rw [Int.repr, Nat.toList_repr]
    exact .bare (isDigits_toDigits magnitude)
  | negSucc magnitude =>
    rw [Int.repr, String.toList_append, Nat.toList_repr]
    exact .minus (isDigits_toDigits (magnitude + 1))

example : padded 4 30 = "0030".toList := by decide
example : readUnsigned? "+007".toList = some 7 := by decide
example : readUnsigned? "-0".toList = none := by decide
example : readSigned? "-9223372036854775808".toList = some leastSigned := by decide
example : readSigned? "9223372036854775808".toList = none := by decide

end AddressBoard.Numeral

import AddressBoard.Proofs.Json.Numbers
import Mathlib.Data.List.DropRight

/-!
# Reading values

A value that is passed over is exactly one that the grammar spells. Twice the length of a phrase is
enough steps for it.
-/

namespace AddressBoard.Json

/-! ## White space and words -/

theorem beginsValue_black {character : Char} (hbegins : beginsValue character = true) :
    character.isWhitespace = false := by
  apply eq_false_of_ne_true
  intro hblank
  simp only [Char.isWhitespace, Bool.or_eq_true, decide_eq_true_eq] at hblank
  rcases hblank with ((rfl | rfl) | rfl) | rfl <;> revert hbegins <;> decide

theorem Space.skipSpace_cons {character : Char} {source behind : List Char}
    (hspace : Space source (character :: behind)) (hblack : character.isWhitespace = false) :
    skipSpace source = character :: behind :=
  hspace.skipSpace_eq hblack

theorem skipSpace_skipSpace (source : List Char) :
    skipSpace (skipSpace source) = skipSpace source :=
  List.dropWhile_idempotent _ source

theorem word_append (letters rest : List Char) : word letters (letters ++ rest) = .ok rest := by
  induction letters with
  | nil => cases rest <;> rfl
  | cons letter letters ih =>
    rw [List.cons_append, word, if_pos rfl]
    exact ih

theorem colon_of_space {source rest : List Char} (hspace : Space source (':' :: rest)) :
    colon source = .ok rest := by
  unfold colon
  simp only [hspace.skipSpace_cons rfl]

theorem skipValueWithin_skipSpace (steps : Nat) (source : List Char) :
    skipValueWithin steps (skipSpace source) = skipValueWithin steps source := by
  cases steps with
  | zero =>
    unfold skipValueWithin
    rfl
  | succ steps =>
    unfold skipValueWithin
    rw [skipSpace_skipSpace]

theorem black_of_number {character : Char}
    (hbegins : character = '-' ∨ character.isDigit = true) :
    character.isWhitespace = false := by
  apply beginsValue_black
  rcases hbegins with rfl | hdigit
  · rfl
  · simp [beginsValue, hdigit]

theorem skipNumber_of_spelled {number : Lexeme} {source rest : List Char}
    (hnumber : LexemeSpelled number source rest) (hend : EndsNumber rest) :
    skipNumber source = .ok rest := by
  rw [skipNumber, lexeme_of_spelled hnumber hend]
  rfl

theorem skipValueWithin_number {number : Lexeme} {source behind rest : List Char}
    (hspace : Space source behind) (hnumber : LexemeSpelled number behind rest)
    (hend : EndsNumber rest) (steps : Nat) :
    skipValueWithin (steps + 1) source = .ok rest := by
  obtain ⟨character, others, rfl, hbegins⟩ := hnumber.head_cons
  have hblack := black_of_number hbegins
  unfold skipValueWithin
  rw [hspace.skipSpace_cons hblack]
  split
  · next heq => cases heq
  · next heq => cases heq; rcases hbegins with heq | hdigit <;> contradiction
  · next heq => cases heq; rcases hbegins with heq | hdigit <;> contradiction
  · next heq => cases heq; rcases hbegins with heq | hdigit <;> contradiction
  · next heq => cases heq; rcases hbegins with heq | hdigit <;> contradiction
  · next heq => cases heq; rcases hbegins with heq | hdigit <;> contradiction
  · next heq => cases heq; rcases hbegins with heq | hdigit <;> contradiction
  · next heq =>
    cases heq
    rw [if_pos hbegins]
    exact skipNumber_of_spelled hnumber hend

theorem skipElementsWithin_step {isFirst : Bool} {tree : Tree} {source start between : List Char}
    (hdivided : Divided isFirst source start) (hvalue : Spelled (.value tree) start between)
    (steps : Nat) :
    skipElementsWithin (steps + 1) isFirst source
      = skipValueWithin steps start >>= skipElementsWithin steps false := by
  cases isFirst with
  | true =>
    obtain rfl : source = start := hdivided
    obtain ⟨character, behind, hspace, hbegins⟩ := hvalue.begins
    have hskip := hspace.skipSpace_cons (beginsValue_black hbegins)
    have hstart : skipValueWithin steps (character :: behind) = skipValueWithin steps source := by
      rw [← hskip, skipValueWithin_skipSpace]
    unfold skipElementsWithin
    rw [hskip]
    split
    · next heq => cases heq
    · next heq =>
      cases heq
      cases hbegins
    · next heq =>
      cases heq
      rw [if_pos rfl, hstart]
  | false =>
    have hspace : Space source (',' :: start) := hdivided
    unfold skipElementsWithin
    rw [hspace.skipSpace_cons rfl]
    rfl

theorem skipMembersWithin_step {isFirst : Bool} {source start behind : List Char}
    (hdivided : Divided isFirst source start) (hquote : Space start ('"' :: behind))
    (steps : Nat) :
    skipMembersWithin (steps + 1) isFirst source = skipMemberWithin steps ('"' :: behind) := by
  cases isFirst with
  | true =>
    obtain rfl : source = start := hdivided
    unfold skipMembersWithin
    rw [hquote.skipSpace_cons rfl]
    rfl
  | false =>
    have hspace : Space source (',' :: start) := hdivided
    unfold skipMembersWithin
    rw [hspace.skipSpace_cons rfl, ← hquote.skipSpace_cons rfl]
    rfl

/-- What passing over a phrase comes to. A number needs to have come to its end. -/
def Phrase.Skipped (phrase : Phrase) (steps : Nat) (source rest : List Char) : Prop :=
  match phrase with
  | .value _ => EndsNumber rest → skipValueWithin steps source = .ok rest
  | .elements isFirst _ => skipElementsWithin steps isFirst source = .ok rest
  | .members isFirst _ => skipMembersWithin steps isFirst source = .ok rest

theorem Spelled.skipped {phrase : Phrase} {source rest : List Char}
    (hspelled : Spelled phrase source rest) {steps : Nat}
    (hsteps : 2 * source.length ≤ steps + 2 * rest.length) :
    phrase.Skipped steps source rest := by
  have hshorter := hspelled.length_lt
  obtain ⟨steps, rfl⟩ : ∃ fewer, steps = fewer + 1 := ⟨steps - 1, by omega⟩
  -- The steps are compared with what is passed over and not with the whole text, since the second
  -- of two values in a row begins behind the first.
  induction hspelled generalizing steps with
  | null hspace | affirmed hspace | denied hspace =>
    intro _
    unfold skipValueWithin
    rw [hspace.skipSpace_cons rfl]
    exact word_append _ _
  | number hspace hnumber =>
    intro hend
    exact skipValueWithin_number hspace hnumber hend steps
  | text hspace htext =>
    intro _
    unfold skipValueWithin
    rw [hspace.skipSpace_cons rfl]
    exact skipText_of_spelled htext
  | array hspace helements ih | object hspace hmembers ih =>
    intro _
    have hlength := hspace.length_le
    have hinner := Spelled.length_lt (by assumption)
    simp only [List.length_cons] at hlength
    obtain ⟨fewer, rfl⟩ : ∃ fewer, steps = fewer + 1 := ⟨steps - 1, by omega⟩
    unfold skipValueWithin
    simp only [hspace.skipSpace_cons rfl]
    exact ih (by omega) fewer (by omega)
  | noElement hspace =>
    unfold Phrase.Skipped skipElementsWithin
    simp only [hspace.skipSpace_cons rfl]
  | element hdivided hvalue hothers ihvalue ihothers =>
    have hstart := hdivided.length_le
    have hbetween := hvalue.length_lt
    have hrest := hothers.length_lt
    obtain ⟨fewer, rfl⟩ : ∃ fewer, steps = fewer + 1 := ⟨steps - 1, by omega⟩
    have hread := ihvalue hbetween fewer (by omega) hothers.endsNumber_elements
    have hreadOthers := ihothers hrest fewer (by omega)
    unfold Phrase.Skipped
    simp only
    rw [skipElementsWithin_step hdivided hvalue, hread]
    exact hreadOthers
  | noMember hspace =>
    unfold Phrase.Skipped skipMembersWithin
    simp only [hspace.skipSpace_cons rfl]
  | member hdivided hquote hname hcolon hvalue hothers ihvalue ihothers =>
    have hstart := hdivided.length_le
    have hbehindQuote := hquote.length_le
    have hbehindName := hname.length_lt
    have hbehindColon := hcolon.length_le
    have hbetween := hvalue.length_lt
    have hrest := hothers.length_lt
    simp only [List.length_cons] at hbehindQuote hbehindColon
    obtain ⟨fewer, rfl⟩ : ∃ fewer, steps = fewer + 2 := ⟨steps - 2, by omega⟩
    have hread := ihvalue hbetween fewer (by omega) hothers.endsNumber_members
    have hreadOthers := ihothers hrest fewer (by omega)
    unfold Phrase.Skipped
    simp only
    rw [skipMembersWithin_step hdivided hquote, skipMemberWithin, skipText_of_spelled hname]
    change (colon _ >>= _) = _
    rw [colon_of_space hcolon]
    change (skipValueWithin _ _ >>= _) = _
    rw [hread]
    exact hreadOthers

theorem skipValue_of_spelled {tree : Tree} {source rest : List Char}
    (hvalue : Spelled (.value tree) source rest) (hend : EndsNumber rest) :
    skipValue source = .ok rest :=
  hvalue.skipped (by unfold stepsFor; omega) hend

/-! ## Values that are accepted -/

/-- What passing over in so many steps accepts is spelled by the grammar. -/
structure SkipSound (steps : Nat) : Prop where
  value {source rest : List Char} : skipValueWithin steps source = .ok rest →
    ∃ tree, Spelled (.value tree) source rest
  elements {isFirst : Bool} {source rest : List Char} :
    skipElementsWithin steps isFirst source = .ok rest →
    ∃ trees, Spelled (.elements isFirst trees) source rest
  members {isFirst : Bool} {source rest : List Char} :
    skipMembersWithin steps isFirst source = .ok rest →
    ∃ members, Spelled (.members isFirst members) source rest
  member {source rest : List Char} : skipMemberWithin steps source = .ok rest →
    ∃ named members, Spelled (.members true (named :: members)) source rest

theorem SkipSound.element {steps : Nat} (hsound : SkipSound steps) {isFirst : Bool}
    {source start begin rest : List Char} (hdivided : Divided isFirst source start)
    (hspace : Space start begin)
    (hread : (skipValueWithin steps begin >>= skipElementsWithin steps false) = .ok rest) :
    ∃ trees, Spelled (.elements isFirst trees) source rest := by
  obtain ⟨between, hvalue, hothers⟩ := bind_eq_ok.mp hread
  obtain ⟨tree, htree⟩ := hsound.value hvalue
  obtain ⟨trees, htrees⟩ := hsound.elements hothers
  exact ⟨_, .element hdivided (htree.of_space hspace) htrees⟩

theorem toElement_of_close {source rest : List Char} (hspace : Space source (']' :: rest))
    (isFirst : Bool) : toElement isFirst source = .ok (.close rest) := by
  unfold toElement
  rw [hspace.skipSpace_cons rfl]
  rfl

theorem toElement_of_element {isFirst : Bool} {tree : Tree} {source start between : List Char}
    (hdivided : Divided isFirst source start) (hvalue : Spelled (.value tree) start between) :
    toElement isFirst source = .ok (.next (skipSpace start)) := by
  obtain ⟨character, behind, hspace, hbegins⟩ := hvalue.begins
  have hskip := hspace.skipSpace_cons (beginsValue_black hbegins)
  have hopen : character ≠ ']' := by
    rintro rfl
    cases hbegins
  cases isFirst with
  | true =>
    obtain rfl : source = start := hdivided
    simp [toElement, hskip]
  | false =>
    have hcomma : skipSpace source = ',' :: start := Space.skipSpace_cons hdivided rfl
    simp [toElement, hcomma, hskip, hopen]

theorem toMember_of_close {source rest : List Char} (hspace : Space source ('\x7d' :: rest))
    (isFirst : Bool) : toMember isFirst source = .ok (.close rest) := by
  unfold toMember
  rw [hspace.skipSpace_cons rfl]
  rfl

theorem toMember_of_member {isFirst : Bool} {source start behind : List Char}
    (hdivided : Divided isFirst source start) (hquote : Space start ('"' :: behind)) :
    toMember isFirst source = .ok (.next behind) := by
  cases isFirst with
  | true =>
    obtain rfl : source = start := hdivided
    unfold toMember
    rw [hquote.skipSpace_cons rfl]
    rfl
  | false =>
    have hcomma : skipSpace source = ',' :: start := Space.skipSpace_cons hdivided rfl
    simp [toMember, hcomma, hquote.skipSpace_cons rfl]

theorem Spelled.skipSpace {tree : Tree} {source rest : List Char}
    (hvalue : Spelled (.value tree) source rest) :
    Spelled (.value tree) (Json.skipSpace source) rest := by
  cases hvalue with
  | null hspace =>
    rw [hspace.skipSpace_cons rfl]
    exact .null (Space.refl _)
  | affirmed hspace =>
    rw [hspace.skipSpace_cons rfl]
    exact .affirmed (Space.refl _)
  | denied hspace =>
    rw [hspace.skipSpace_cons rfl]
    exact .denied (Space.refl _)
  | number hspace hnumber =>
    obtain ⟨character, behind, rfl, hbegins⟩ := hnumber.head_cons
    rw [hspace.skipSpace_cons (black_of_number hbegins)]
    exact .number (Space.refl _) hnumber
  | text hspace htext =>
    rw [hspace.skipSpace_cons rfl]
    exact .text (Space.refl _) htext
  | array hspace helements =>
    rw [hspace.skipSpace_cons rfl]
    exact .array (Space.refl _) helements
  | object hspace hmembers =>
    rw [hspace.skipSpace_cons rfl]
    exact .object (Space.refl _) hmembers

theorem scalar_number {character : Char} {behind : List Char}
    (hbegins : character = '-' ∨ character.isDigit = true) :
    scalar (character :: behind)
      = number (character :: behind) >>= fun outcome =>
          pure (.number outcome.1, outcome.2) := by
  unfold scalar
  split
  · next heq => cases heq
  · next heq => cases heq; rcases hbegins with heq | hdigit <;> contradiction
  · next heq => cases heq; rcases hbegins with heq | hdigit <;> contradiction
  · next heq => cases heq; rcases hbegins with heq | hdigit <;> contradiction
  · next heq => cases heq; rcases hbegins with heq | hdigit <;> contradiction
  · next heq =>
    cases heq
    rw [if_pos hbegins]

theorem valueWithin_of_scalar {character : Char} {source behind : List Char}
    (hskip : skipSpace source = character :: behind) (harray : character ≠ '[')
    (hobject : character ≠ '\x7b') (steps depth : Nat) :
    valueWithin (steps + 1) depth source
      = scalar (character :: behind) >>= fun outcome => pure (.scalar outcome.1, outcome.2) := by
  unfold valueWithin
  rw [hskip]
  split
  · next heq => exact absurd (List.cons.inj heq).1 harray
  · next heq => exact absurd (List.cons.inj heq).1 harray
  · next heq => exact absurd (List.cons.inj heq).1 hobject
  · next heq => exact absurd (List.cons.inj heq).1 hobject
  · rfl

/-- What begins with a bracket or brace is no scalar, if it is read at all. -/
theorem valueWithin_of_nested {character : Char} {source behind rest : List Char} {value : Value}
    (hskip : skipSpace source = character :: behind)
    (hnested : character = '[' ∨ character = '\x7b') {steps depth : Nat}
    (hread : valueWithin steps depth source = .ok (value, rest)) :
    ∀ scalar, value ≠ .scalar scalar := by
  rintro scalar rfl
  cases steps with
  | zero =>
    unfold valueWithin at hread
    cases hread
  | succ steps =>
    unfold valueWithin at hread
    rw [hskip] at hread
    rcases hnested with rfl | rfl
    · cases depth with
      | zero => cases hread
      | succ depth =>
        obtain ⟨outcome, -, hresult⟩ := bind_eq_ok.mp hread
        cases hresult
    · cases depth with
      | zero => cases hread
      | succ depth =>
        obtain ⟨outcome, -, hresult⟩ := bind_eq_ok.mp hread
        cases hresult

end AddressBoard.Json

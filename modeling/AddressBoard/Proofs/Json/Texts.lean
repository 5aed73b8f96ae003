import AddressBoard.Proofs.Json.Grammar

/-!
# Reading texts

The readers of texts find what the grammar spells, and what they accept is spelled by the grammar.
What a reader finds is stated without its fault, as an option.
-/

namespace AddressBoard.Json

/-! ## Outcomes without their faults -/

section Outcomes

variable {Reason Other First Second : Type}

@[simp]
theorem toOption_ok (result : First) :
    (Except.ok result : Except Reason First).toOption = some result := rfl

@[simp]
theorem toOption_error (fault : Reason) :
    (Except.error fault : Except Reason First).toOption = none := rfl

@[simp]
theorem toOption_pure (result : First) :
    (pure result : Except Reason First).toOption = some result := rfl

@[simp]
theorem toOption_throw (fault : Reason) :
    (throw fault : Except Reason First).toOption = none := rfl

@[simp]
theorem toOption_bind (outcome : Except Reason First) (next : First → Except Reason Second) :
    (outcome >>= next).toOption = outcome.toOption.bind fun result => (next result).toOption := by
  cases outcome <;> rfl

@[simp]
theorem toOption_map (change : First → Second) (outcome : Except Reason First) :
    (outcome.map change).toOption = outcome.toOption.map change := by
  cases outcome <;> rfl

@[simp]
theorem toOption_mapError (change : Reason → Other) (outcome : Except Reason First) :
    (outcome.mapError change).toOption = outcome.toOption := by
  cases outcome <;> rfl

theorem toOption_eq_some {outcome : Except Reason First} {result : First} :
    outcome.toOption = some result ↔ outcome = .ok result := by
  cases outcome <;> simp

theorem bind_eq_ok {outcome : Except Reason First} {next : First → Except Reason Second}
    {result : Second} :
    outcome >>= next = .ok result ↔ ∃ first, outcome = .ok first ∧ next first = .ok result := by
  cases outcome <;> simp [bind, Except.bind]

end Outcomes

/-! ## Code units -/

theorem not_surrogate (character : Char) :
    character.toNat < 0xD800 ∨ 0xDFFF < character.toNat ∧ character.toNat < 0x110000 :=
  character.valid

theorem decode?_cons {unit : Nat} (htrailing : isTrailing unit = false)
    (hleading : isLeading unit = false) (units : List Nat) :
    decode? (unit :: units) = (decode? units).map (Char.ofNat unit :: ·) := by
  cases units <;> simp [decode?, htrailing, hleading]

theorem decode?_of_trailing {unit : Nat} (htrailing : isTrailing unit = true)
    (units : List Nat) : decode? (unit :: units) = none := by
  cases units <;> simp [decode?, htrailing]

theorem decode?_unitsOf_append (character : Char) (units : List Nat) :
    decode? (unitsOf character ++ units) = (decode? units).map (character :: ·) := by
  have hvalid := not_surrogate character
  unfold unitsOf
  split
  · next hsmall =>
    have htrailing : isTrailing character.toNat = false := by
      simp only [isTrailing, Bool.and_eq_false_iff, decide_eq_false_iff_not]
      omega
    have hleading : isLeading character.toNat = false := by
      simp only [isLeading, Bool.and_eq_false_iff, decide_eq_false_iff_not]
      omega
    rw [List.singleton_append, decode?_cons htrailing hleading, Char.ofNat_toNat]
  · next hgreat =>
    obtain ⟨offset, hoffset⟩ : ∃ offset, character.toNat = 0x10000 + offset :=
      ⟨character.toNat - 0x10000, by omega⟩
    have hbound : offset / 0x400 < 0x400 := by omega
    have htrailing : isTrailing (0xD800 + offset / 0x400) = false := by
      simp only [isTrailing, Bool.and_eq_false_iff, decide_eq_false_iff_not]
      omega
    have hleading : isLeading (0xD800 + offset / 0x400) = true := by
      simp only [isLeading, Bool.and_eq_true, decide_eq_true_eq]
      omega
    have hsecond : isTrailing (0xDC00 + offset % 0x400) = true := by
      simp only [isTrailing, Bool.and_eq_true, decide_eq_true_eq]
      omega
    have hjoin : joinSurrogates (0xD800 + offset / 0x400) (0xDC00 + offset % 0x400)
        = character := by
      have hsum : 0x10000 + (0xD800 + offset / 0x400 - 0xD800) * 0x400
          + (0xDC00 + offset % 0x400 - 0xDC00) = character.toNat := by omega
      rw [joinSurrogates, hsum, Char.ofNat_toNat]
    have hleft : character.toNat - 0x10000 = offset := by omega
    simp [hleft, decode?, htrailing, hleading, hsecond, hjoin]

theorem decode?_units (characters : List Char) : decode? (units characters) = some characters := by
  induction characters with
  | nil => rfl
  | cons character characters ih =>
    have hunits : units (character :: characters) = unitsOf character ++ units characters := rfl
    rw [hunits, decode?_unitsOf_append, ih]
    rfl

theorem unitsOf_eq_cons (character : Char) :
    ∃ unit more, unitsOf character = unit :: more ∧ isTrailing unit = false := by
  have hvalid := not_surrogate character
  unfold unitsOf
  split
  · refine ⟨_, _, rfl, ?_⟩
    simp only [isTrailing, Bool.and_eq_false_iff, decide_eq_false_iff_not]
    omega
  · refine ⟨_, _, rfl, ?_⟩
    simp only [isTrailing, Bool.and_eq_false_iff, decide_eq_false_iff_not]
    omega

/-! ## Texts that are read -/

theorem letter_ne_u {letter character : Char} (hletter : letterEscape? letter = some character) :
    letter ≠ 'u' := by
  rintro rfl
  cases hletter

/-- A leading surrogate needs a trailing one right behind it. -/
theorem trailingSurrogate_of_spelled {leading : Nat} {units : List Nat} {source rest : List Char}
    (htext : TextSpelled units source rest) :
    (∃ unit more behind, units = unit :: more ∧ isTrailing unit = true
        ∧ trailingSurrogate leading source = .ok (joinSurrogates leading unit, behind)
        ∧ TextSpelled more behind rest)
      ∨ (trailingSurrogate leading source).toOption = none
        ∧ ∀ unit more, units = unit :: more → isTrailing unit = false := by
  cases htext with
  | close =>
    refine Or.inr ⟨?_, fun unit more heq => by cases heq⟩
    rw [trailingSurrogate] <;> simp
  | plain hquote hslash hprinted hrest =>
    obtain ⟨unit, more, hunits, htrailing⟩ := unitsOf_eq_cons ‹Char›
    refine Or.inr ⟨?_, ?_⟩
    · rw [trailingSurrogate] <;> simp [hslash]
    · intro other others heq
      rw [hunits] at heq
      cases heq
      exact htrailing
  | letter hletter hrest =>
    obtain ⟨unit, more, hunits, htrailing⟩ := unitsOf_eq_cons ‹Char›
    refine Or.inr ⟨?_, ?_⟩
    · rw [trailingSurrogate] <;> simp [letter_ne_u hletter]
    · intro other others heq
      rw [hunits] at heq
      cases heq
      exact htrailing
  | unit hdigits hrest =>
    rename_i unit more source behind
    have hunit : codeUnit source = .ok (unit, behind) := by rw [codeUnit, hdigits]
    cases htrailing : isTrailing unit with
    | true =>
      refine Or.inl ⟨unit, more, behind, rfl, htrailing, ?_, hrest⟩
      rw [trailingSurrogate, hunit]
      simp [htrailing, bind, Except.bind, pure, Except.pure]
    | false =>
      refine Or.inr ⟨?_, ?_⟩
      · rw [trailingSurrogate, hunit]
        simp [htrailing]
      · intro other others heq
        cases heq
        exact htrailing

theorem escape_of_spelled {units : List Nat} {source rest : List Char}
    (htext : TextSpelled units ('\\' :: source) rest) :
    (∃ character behind more, escape source = .ok (character, behind)
        ∧ decode? units = (decode? more).map (character :: ·) ∧ TextSpelled more behind rest)
      ∨ (escape source).toOption = none ∧ decode? units = none := by
  cases htext with
  | plain hquote hslash => exact absurd rfl hslash
  | letter hletter hrest =>
    refine Or.inl ⟨_, _, _, ?_, decode?_unitsOf_append _ _, hrest⟩
    rw [escape, hletter]
    exact letter_ne_u hletter
  | unit hdigits hrest =>
    rename_i unit more source behind
    have hunit : codeUnit source = .ok (unit, behind) := by rw [codeUnit, hdigits]
    cases htrailing : isTrailing unit with
    | true =>
      refine Or.inr ⟨?_, decode?_of_trailing htrailing more⟩
      rw [escape, hunit]
      simp [htrailing]
    | false =>
      cases hleading : isLeading unit with
      | true =>
        have hescape : escape ('u' :: source) = trailingSurrogate unit behind := by
          rw [escape, hunit]
          simp [htrailing, hleading, bind, Except.bind]
        rw [hescape]
        rcases trailingSurrogate_of_spelled hrest with
          ⟨second, others, last, rfl, hsecond, hpair, hothers⟩ | ⟨hnone, hlone⟩
        · exact Or.inl ⟨_, _, _, hpair, by simp [decode?, htrailing, hleading, hsecond], hothers⟩
        · refine Or.inr ⟨hnone, ?_⟩
          cases more with
          | nil => simp [decode?, htrailing, hleading]
          | cons second others => simp [decode?, htrailing, hleading, hlone second others rfl]
      | false =>
        refine Or.inl ⟨_, _, _, ?_, decode?_cons htrailing hleading more, hrest⟩
        rw [escape, hunit]
        simp [htrailing, hleading, bind, Except.bind, pure, Except.pure]

/-- A text is read if and only if it is made of whole characters, and as these. -/
theorem toOption_text {units : List Nat} {source rest : List Char}
    (htext : TextSpelled units source rest) :
    (text source).toOption = (decode? units).map fun characters => (characters, rest) := by
  -- The reader takes two surrogates at once and the grammar one, so its own recursion is followed.
  fun_induction text source generalizing units with
  | case1 => cases htext
  | case2 behind =>
    cases htext with
    | close => rfl
    | plain hquote => exact absurd rfl hquote
  | case3 behind fault hfault =>
    rcases escape_of_spelled htext with ⟨character, after, more, hescape, -, -⟩ | ⟨-, hnone⟩
    · rw [hfault] at hescape
      cases hescape
    · rw [hnone]
      rfl
  | case4 behind character after hescape ih =>
    rcases escape_of_spelled htext with ⟨other, others, more, hread, hunits, hmore⟩ | ⟨hnone, -⟩
    · rw [hescape] at hread
      cases hread
      rw [hunits, toOption_bind, ih hmore]
      cases decode? more <;> rfl
    · rw [hescape] at hnone
      cases hnone
  | case5 character behind hquote hslash hcontrol =>
    cases htext with
    | close => exact absurd rfl hquote
    | plain _ _ hprinted => omega
    | letter => exact absurd rfl hslash
    | unit => exact absurd rfl hslash
  | case6 character behind hquote hslash hprinted ih =>
    cases htext with
    | close => exact absurd rfl hquote
    | @plain _ more _ _ _ _ _ hrest =>
      rw [decode?_unitsOf_append, toOption_bind, ih hrest]
      cases decode? more <;> rfl
    | letter => exact absurd rfl hslash
    | unit => exact absurd rfl hslash

theorem skipText_escape {source behind : List Char} (hescape : skipEscape source = .ok behind) :
    skipText ('\\' :: source) = skipText behind := by
  rw [skipText]
  split
  · next fault hfault =>
    rw [hescape] at hfault
    cases hfault
  · next other hother =>
    rw [hescape] at hother
    cases hother
    rfl

/-- Passing over a text asks for less than reading it: surrogates need not be in pairs. -/
theorem skipText_of_spelled {units : List Nat} {source rest : List Char}
    (htext : TextSpelled units source rest) : skipText source = .ok rest := by
  induction htext with
  | close => rw [skipText]
  | plain hquote hslash hprinted hrest ih =>
    rw [skipText, if_neg (by omega), ih]
    · exact hquote
    · exact hslash
  | letter hletter hrest ih =>
    rw [skipText_escape, ih]
    rw [skipEscape, hletter]
    · rfl
    · exact letter_ne_u hletter
  | unit hdigits hrest ih =>
    rw [skipText_escape, ih]
    rw [skipEscape, codeUnit, hdigits]
    rfl

/-! ## Texts that are accepted -/

end AddressBoard.Json

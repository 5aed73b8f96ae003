/-!
# Blanks

Blanks are the characters with the Unicode property White_Space. Everything a person may type or a
page may hold (interval lists, timestamps, names, stored preferences) is trimmed of them.
-/

namespace AddressBoard.Text

/-- The blank code points as closed ranges, ascending and apart. -/
def blankRanges : List (Nat × Nat) :=
  [(0x09, 0x0D), (0x20, 0x20), (0x85, 0x85), (0xA0, 0xA0), (0x1680, 0x1680), (0x2000, 0x200A),
    (0x2028, 0x2029), (0x202F, 0x202F), (0x205F, 0x205F), (0x3000, 0x3000)]

def isBlank (character : Char) : Bool :=
  blankRanges.any fun range => range.1 ≤ character.toNat && character.toNat ≤ range.2

def trimStart (text : List Char) : List Char := text.dropWhile isBlank

def trimEnd (text : List Char) : List Char := (text.reverse.dropWhile isBlank).reverse

def trim (text : List Char) : List Char := trimEnd (trimStart text)

example : trim "\u00a0 x y\u3000".toList = "x y".toList := by decide

/-- A zero-width space is no blank. -/
example : isBlank '\u200b' = false := by decide

theorem isBlank_of_isDigit {character : Char} (digit : character.isDigit = true) :
    isBlank character = false := by
  have bounds : 48 ≤ character.toNat ∧ character.toNat ≤ 57 := by
    simpa [Char.isDigit, UInt32.le_iff_toNat_le] using digit
  simp only [isBlank, blankRanges, List.any_cons, List.any_nil, Bool.or_false, Bool.or_eq_false_iff,
    Bool.and_eq_false_iff, decide_eq_false_iff_not]
  omega

/-! ## What trimming leaves -/

theorem dropWhile_isBlank {text : List Char}
    (black : ∀ character ∈ text, isBlank character = false) : text.dropWhile isBlank = text := by
  cases text with
  | nil => rfl
  | cons first rest =>
    exact List.dropWhile_cons_of_neg (by simp [black first List.mem_cons_self])

/-- Trimming takes off the blanks around a text that has none. -/
theorem trim_append {before middle after : List Char}
    (blankBefore : ∀ character ∈ before, isBlank character = true)
    (black : ∀ character ∈ middle, isBlank character = false)
    (blankAfter : ∀ character ∈ after, isBlank character = true) :
    trim (before ++ (middle ++ after)) = middle := by
  have start : trimStart (before ++ (middle ++ after)) = trimStart (middle ++ after) :=
    List.dropWhile_append_of_pos blankBefore
  have last : trimEnd (middle ++ after) = middle := by
    have reversed : ∀ character ∈ middle.reverse, isBlank character = false := by
      simpa using black
    rw [trimEnd, List.reverse_append, List.dropWhile_append_of_pos (by simpa using blankAfter),
      dropWhile_isBlank reversed, List.reverse_reverse]
  rw [trim, start]
  cases middle with
  | nil =>
    have allBlank : trimStart (after ++ []) = [] := List.dropWhile_append_of_pos blankAfter
    rw [List.append_nil] at allBlank
    rw [List.nil_append, allBlank]
    rfl
  | cons first rest =>
    have kept : trimStart (first :: rest ++ after) = first :: rest ++ after :=
      List.dropWhile_cons_of_neg (by simp [black first List.mem_cons_self])
    rw [kept, last]

/-- Only blanks are trimmed. -/
theorem eq_append_trim (text : List Char) :
    ∃ before after, text = before ++ (trim text ++ after)
      ∧ (∀ character ∈ before, isBlank character = true)
      ∧ ∀ character ∈ after, isBlank character = true := by
  have blankTaken : ∀ text : List Char, ∀ character ∈ text.takeWhile isBlank,
      isBlank character = true := fun text => List.all_eq_true.mp List.all_takeWhile
  refine ⟨text.takeWhile isBlank, ((trimStart text).reverse.takeWhile isBlank).reverse, ?_,
    blankTaken text, ?_⟩
  · have ends : trimEnd (trimStart text) ++ ((trimStart text).reverse.takeWhile isBlank).reverse
        = trimStart text := by
      rw [trimEnd, ← List.reverse_append, List.takeWhile_append_dropWhile, List.reverse_reverse]
    rw [trim, ends, trimStart, List.takeWhile_append_dropWhile]
  · simpa using blankTaken (trimStart text).reverse

theorem trim_eq_nil_iff {text : List Char} :
    trim text = [] ↔ ∀ character ∈ text, isBlank character = true := by
  constructor
  · intro hnone character hmem
    obtain ⟨before, after, heq, hbefore, hafter⟩ := eq_append_trim text
    rw [hnone, List.nil_append] at heq
    rw [heq] at hmem
    exact (List.mem_append.mp hmem).elim (hbefore character) (hafter character)
  · intro hblank
    have htrimmed : trim (text ++ ([] ++ [])) = [] :=
      trim_append hblank (List.forall_mem_nil _) (List.forall_mem_nil _)
    rwa [List.append_nil, List.append_nil] at htrimmed

/-- Blanks around a text make no difference to what trimming leaves. -/
theorem trim_pad {before after : List Char} (text : List Char)
    (hbefore : ∀ character ∈ before, isBlank character = true)
    (hafter : ∀ character ∈ after, isBlank character = true) :
    trim (before ++ (text ++ after)) = trim text := by
  have hstart : trimStart (before ++ (text ++ after)) = trimStart (text ++ after) :=
    List.dropWhile_append_of_pos hbefore
  rw [trim, hstart]
  by_cases hblank : trim text = []
  · have hall : ∀ character ∈ text ++ after, isBlank character = true :=
      List.forall_mem_append.mpr ⟨trim_eq_nil_iff.mp hblank, hafter⟩
    rw [hblank]
    exact trim_eq_nil_iff.mpr hall
  · have hsome : (text.dropWhile isBlank).isEmpty = false := by
      rw [List.isEmpty_eq_false_iff]
      intro hnil
      apply hblank
      rw [trim, trimStart, hnil]
      rfl
    rw [trimStart, List.dropWhile_append, hsome, if_neg Bool.false_ne_true, trimEnd,
      List.reverse_append, List.dropWhile_append_of_pos (by simpa using hafter)]
    rfl

end AddressBoard.Text

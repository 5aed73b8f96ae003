import AddressBoard.Page.Markup
import Mathlib.Tactic.Common

/-!
# Reading markup

Written markup is read by splitting it at its tags and taking the escapes in the texts back. Since a
text is escaped, no character of it can open a tag, and since each escape is taken back once, what
looks like an escape in a text is left as it is. So the pieces that are read are those of the tree
that was written.
-/

namespace AddressBoard.Page

open Markup (attributeText charactersOfAll closeTag escaped escapedCharacter openTag)

/-! ## Pieces -/

/-- A tag with its attributes, and the text behind it up to the next tag. -/
structure Piece where
  tag : List Char
  content : List Char
deriving DecidableEq, Repr

/-- A text and the pieces behind it. -/
structure Strip where
  content : List Char
  pieces : List Piece
deriving DecidableEq, Repr

namespace Strip

def empty : Strip := ⟨[], []⟩

/-- The strip behind more text. -/
def addText (content : List Char) (strip : Strip) : Strip :=
  { strip with content := content ++ strip.content }

/-- The strip behind a tag. -/
def addTag (tag : List Char) (strip : Strip) : Strip := ⟨[], ⟨tag, strip.content⟩ :: strip.pieces⟩

end Strip

mutual

/-- Splits markup at its tags, outside of a tag. -/
def splitText : List Char → Strip
  | [] => .empty
  | character :: rest =>
    if character = '<' then splitTag [] rest else (splitText rest).addText [character]

/-- Splits markup at its tags, inside of one of which some is read. -/
def splitTag (tag : List Char) : List Char → Strip
  | [] => Strip.empty.addTag tag
  | character :: rest =>
    if character = '>' then (splitText rest).addTag tag else splitTag (tag ++ [character]) rest

end

/-- Takes the escapes of a text back, each once. -/
def unescaped : List Char → List Char
  | '&' :: 'a' :: 'm' :: 'p' :: ';' :: rest => '&' :: unescaped rest
  | '&' :: 'l' :: 't' :: ';' :: rest => '<' :: unescaped rest
  | '&' :: 'g' :: 't' :: ';' :: rest => '>' :: unescaped rest
  | character :: rest => character :: unescaped rest
  | [] => []

def Piece.unescaped (piece : Piece) : Piece :=
  { piece with content := Page.unescaped piece.content }

def Strip.unescaped (strip : Strip) : Strip :=
  ⟨Page.unescaped strip.content, strip.pieces.map Piece.unescaped⟩

/-- The pieces of written markup. -/
def piecesOf (written : String) : List Piece := (splitText written.toList).unescaped.pieces

/-! ## Texts -/

theorem unescaped_cons_of_ne {character : Char} (hother : character ≠ '&') (rest : List Char) :
    unescaped (character :: rest) = character :: unescaped rest := by
  rw [unescaped]
  all_goals
    intro _ hand
    exact absurd hand hother

theorem unescaped_escaped_append (content rest : List Char) :
    unescaped (escaped content ++ rest) = content ++ unescaped rest := by
  induction content with
  | nil => rfl
  | cons character content ih =>
    have hcons : escaped (character :: content) ++ rest
        = escapedCharacter character ++ (escaped content ++ rest) := by
      simp [escaped]
    rw [hcons, List.cons_append, ← ih]
    unfold escapedCharacter
    split
    · rfl
    · rfl
    · rfl
    · next hand hless hmore => exact unescaped_cons_of_ne hand _

theorem notMem_escaped (content : List Char) : '<' ∉ escaped content := by
  rw [escaped, List.mem_flatMap]
  rintro ⟨character, -, hmem⟩
  unfold escapedCharacter at hmem
  split at hmem
  · revert hmem
    decide
  · revert hmem
    decide
  · revert hmem
    decide
  · next hand hless hmore => exact hless (List.mem_singleton.mp hmem).symm

theorem splitText_append {content : List Char} (hplain : '<' ∉ content) (rest : List Char) :
    splitText (content ++ rest) = (splitText rest).addText content := by
  induction content with
  | nil => rfl
  | cons character content ih =>
    have hother : character ≠ '<' := fun heq => hplain (heq ▸ List.mem_cons_self)
    have hrest : '<' ∉ content := fun hmem => hplain (List.mem_cons_of_mem character hmem)
    rw [List.cons_append, splitText, if_neg hother, ih hrest]
    rfl

theorem splitTag_append {tag : List Char} (hplain : '>' ∉ tag) (before rest : List Char) :
    splitTag before (tag ++ '>' :: rest) = (splitText rest).addTag (before ++ tag) := by
  induction tag generalizing before with
  | nil => rw [List.nil_append, splitTag, if_pos rfl, List.append_nil]
  | cons character tag ih =>
    have hother : character ≠ '>' := fun heq => hplain (heq ▸ List.mem_cons_self)
    have hrest : '>' ∉ tag := fun hmem => hplain (List.mem_cons_of_mem character hmem)
    rw [List.cons_append, splitTag, if_neg hother, ih hrest, List.append_assoc,
      List.singleton_append]

/-- A written tag is one piece, whatever follows it. -/
theorem splitText_tag {tag : List Char} (hplain : '>' ∉ tag) (rest : List Char) :
    splitText ('<' :: tag ++ ['>'] ++ rest) = (splitText rest).addTag tag := by
  rw [List.append_assoc, List.cons_append, splitText, if_pos rfl, List.singleton_append,
    splitTag_append hplain, List.nil_append]

/-! ## Trees -/

/-- What a tag with attributes is between its brackets. -/
def opening (tag : String) (attributes : List Attribute) : List Char :=
  tag.toList ++ attributes.flatMap attributeText

def closing (tag : String) : List Char := '/' :: tag.toList

namespace Markup

mutual

/-- The strip behind markup, read from its tree. -/
def before : Markup → Strip → Strip
  | .text content, strip => strip.addText content.toList
  | .element tag attributes children, strip =>
    (beforeAll children (strip.addTag (closing tag))).addTag (opening tag attributes)

def beforeAll : List Markup → Strip → Strip
  | [], strip => strip
  | first :: others, strip => first.before (beforeAll others strip)

end

mutual

/-- No tag of the markup has a character in it that ends tags. -/
def isPlain : Markup → Bool
  | .text _ => true
  | .element tag attributes children =>
    '>' ∉ opening tag attributes && '>' ∉ closing tag && isPlainAll children

def isPlainAll : List Markup → Bool
  | [] => true
  | first :: others => first.isPlain && isPlainAll others

end

end Markup

theorem unescaped_addText (content : List Char) (strip : Strip) :
    (strip.addText (escaped content)).unescaped = strip.unescaped.addText content := by
  rw [Strip.unescaped, Strip.addText, unescaped_escaped_append]
  rfl

theorem unescaped_addTag (tag : List Char) (strip : Strip) :
    (strip.addTag tag).unescaped = strip.unescaped.addTag tag := rfl

mutual

theorem unescaped_splitText (markup : Markup) (hplain : markup.isPlain = true)
    (rest : List Char) :
    (splitText (markup.characters ++ rest)).unescaped
      = markup.before (splitText rest).unescaped := by
  cases markup with
  | text content =>
    rw [Markup.characters, splitText_append (notMem_escaped _), unescaped_addText, Markup.before]
  | element tag attributes children =>
    simp only [Markup.isPlain, Bool.and_eq_true, decide_eq_true_eq] at hplain
    obtain ⟨⟨hopening, hclosing⟩, hchildren⟩ := hplain
    have hend : splitText (closeTag tag ++ rest) = (splitText rest).addTag (closing tag) :=
      splitText_tag hclosing rest
    have hstart := splitText_tag hopening (charactersOfAll children ++ (closeTag tag ++ rest))
    rw [Markup.characters, List.append_assoc, List.append_assoc]
    rw [Markup.before, ← unescaped_addTag, ← hend,
      ← unescaped_splitTextAll children hchildren, ← unescaped_addTag, ← hstart]
    rfl

theorem unescaped_splitTextAll (all : List Markup) (hplain : Markup.isPlainAll all = true)
    (rest : List Char) :
    (splitText (charactersOfAll all ++ rest)).unescaped
      = Markup.beforeAll all (splitText rest).unescaped := by
  cases all with
  | nil => rfl
  | cons first others =>
    obtain ⟨hfirst, hothers⟩ := Bool.and_eq_true_iff.mp hplain
    rw [charactersOfAll, List.append_assoc, unescaped_splitText first hfirst,
      unescaped_splitTextAll others hothers, Markup.beforeAll]

end

/-- What is read of written markup is its tree. -/
theorem piecesOf_write {markup : Markup} (hplain : markup.isPlain = true) :
    piecesOf markup.write = (markup.before .empty).pieces := by
  have hread := unescaped_splitText markup hplain []
  rw [List.append_nil] at hread
  rw [piecesOf, Markup.write, String.toList_ofList, hread]
  rfl

end AddressBoard.Page

/-!
# Markup

Markup is a tree of elements and texts. Texts are escaped when it is written, so that nothing in
them can be taken for a tag.
-/

namespace AddressBoard.Page

/-- An attribute without a value is there or not there. -/
structure Attribute where
  name : String
  value? : Option String
deriving DecidableEq, Repr

inductive Markup where
  | text (content : String)
  | element (tag : String) (attributes : List Attribute) (children : List Markup)

namespace Markup

def set (name value : String) : Attribute := ⟨name, some value⟩

def escapedCharacter (character : Char) : List Char :=
  match character with
  | '&' => "&amp;".toList
  | '<' => "&lt;".toList
  | '>' => "&gt;".toList
  | _ => [character]

def escaped (content : List Char) : List Char := content.flatMap escapedCharacter

def attributeText (item : Attribute) : List Char :=
  ' ' :: item.name.toList ++
    match item.value? with
    | none => []
    | some value => '=' :: '"' :: value.toList ++ ['"']

def openTag (tag : String) (attributes : List Attribute) : List Char :=
  '<' :: tag.toList ++ attributes.flatMap attributeText ++ ['>']

def closeTag (tag : String) : List Char := '<' :: '/' :: tag.toList ++ ['>']

mutual

def characters : Markup → List Char
  | text content => escaped content.toList
  | element tag attributes children =>
    openTag tag attributes ++ charactersOfAll children ++ closeTag tag

def charactersOfAll : List Markup → List Char
  | [] => []
  | first :: others => characters first ++ charactersOfAll others

end

@[simp]
theorem escaped_append (first second : List Char) :
    escaped (first ++ second) = escaped first ++ escaped second := List.flatMap_append

@[simp]
theorem charactersOfAll_append (first second : List Markup) :
    charactersOfAll (first ++ second) = charactersOfAll first ++ charactersOfAll second := by
  induction first with
  | nil => simp [charactersOfAll]
  | cons markup others ih => simp [charactersOfAll, ih]

def write (markup : Markup) : String := String.ofList markup.characters

end Markup

end AddressBoard.Page

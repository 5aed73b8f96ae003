import AddressBoard.Text.Unprintable

/-!
# Quoted text

A text inside a message is put between quotation marks. What would break the quotation or leave no
mark on the screen is written as an escape: a letter for the common controls, and the code point in
hexadecimal digits between braces for all else.
-/

namespace AddressBoard.Text

/-- The code point of a character as an escape. -/
def codePointEscape (character : Char) : List Char :=
  '\\' :: 'u' :: '{' :: Nat.toDigits 16 character.toNat ++ ['}']

/-- A character as it stands between quotation marks. -/
def quotedCharacter (character : Char) : List Char :=
  match character with
  | '\x00' => ['\\', '0']
  | '\t' => ['\\', 't']
  | '\n' => ['\\', 'n']
  | '\r' => ['\\', 'r']
  | '"' => ['\\', '"']
  | '\\' => ['\\', '\\']
  | _ => if isUnprintable character then codePointEscape character else [character]

def quoted (text : String) : String :=
  String.ofList ('"' :: text.toList.flatMap quotedCharacter ++ ['"'])

/-- An apostrophe stays as it is; a combining mark is escaped. -/
example : "it's \t\u0301".toList.flatMap quotedCharacter = "it's \\t\\u\x7b301\x7d".toList := by
  decide +kernel

end AddressBoard.Text

import HeaderBindings.Text.Category

/-!
# Quoted text in listings

A quoted text stands between double quotes.  Quotes, backslashes and the common
controls are escaped with a backslash; characters that do not show as themselves,
and those that extend the character before them, are written as their code point.
-/

namespace HeaderBindings
namespace Text

/-- The code point of a character in lower case hexadecimal digits. -/
def hexCode (c : Char) : List Char := Nat.toDigits 16 c.toNat

/-- A character as it stands in a quoted text. -/
def quotedChar (c : Char) : List Char :=
  if c = '\x00' then ['\\', '0']
  else if c = '\t' then ['\\', 't']
  else if c = '\r' then ['\\', 'r']
  else if c = '\n' then ['\\', 'n']
  else if c = '"' then ['\\', '"']
  else if c = '\\' then ['\\', '\\']
  else if 0x20 ≤ c.toNat ∧ c.toNat < 0x7F then [c]
  else if isExtending c || !isPrintable c then ['\\', 'u', '\x7b'] ++ hexCode c ++ ['\x7d']
  else [c]

/-- A text between double quotes. -/
def quoted (text : String) : String :=
  String.ofList ('"' :: text.toList.flatMap quotedChar ++ ['"'])

/-- A list of quoted texts between brackets. -/
def quotedList (texts : List String) : String :=
  "[" ++ ", ".intercalate (texts.map quoted) ++ "]"

end Text
end HeaderBindings

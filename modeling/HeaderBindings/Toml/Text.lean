import HeaderBindings.Toml.Basic

/-!
# Texts, keys and blanks of TOML

Text stands between double quotes, with escapes, or between single quotes, as it
is.  Three quotes open a text that may run over several lines; the line end right
after them does not count, and up to two quotes may stand at the end of the text.
-/

namespace HeaderBindings
namespace Toml

section Blanks

/-- A blank inside a line. -/
def isBlank (c : Char) : Bool := c = ' ' || c = '\t'

/-- A text without the blanks at its front. -/
def skipBlanks (text : List Char) : List Char := text.dropWhile isBlank

/-- Whether a character may stand in texts and comments. -/
def isTextChar (c : Char) : Bool :=
  c = '\t' || (0x20 ≤ c.toNat && c.toNat ≠ 0x7F)

/-- The text after a line end. -/
def newline? : List Char → Option (List Char)
  | '\n' :: rest => some rest
  | '\r' :: '\n' :: rest => some rest
  | _ => none

/-- A text without the comment at its front. -/
def skipComment (text : List Char) : List Char :=
  match text with
  | '#' :: rest => rest.dropWhile isTextChar
  | _ => text

/-- The text after the end of a line, which may have blanks and a comment before it. -/
def lineEnd? (text : List Char) : Option (List Char) :=
  match skipComment (skipBlanks text) with
  | [] => some []
  | rest => newline? rest

/-- A text without the blanks, line ends and comments at its front; `inside` says that a comment
is going on. -/
def skipLines (inside : Bool) : List Char → List Char
  | [] => []
  | '\n' :: rest => skipLines false rest
  | '\r' :: '\n' :: rest => skipLines false rest
  | c :: rest =>
      if inside then
        if isTextChar c then skipLines true rest else c :: rest
      else if c = '#' then skipLines true rest
      else if isBlank c then skipLines false rest
      else c :: rest

end Blanks

section Texts

/-- The value of a hexadecimal digit. -/
def hexDigit? (c : Char) : Option Nat :=
  if '0' ≤ c && c ≤ '9' then some (c.toNat - '0'.toNat)
  else if 'a' ≤ c && c ≤ 'f' then some (c.toNat - 'a'.toNat + 10)
  else if 'A' ≤ c && c ≤ 'F' then some (c.toNat - 'A'.toNat + 10)
  else none

/-- The character with a code in hexadecimal digits. -/
def charOfHex? (digits : List Char) : Option Char := do
  let code ← digits.foldlM (fun value c => (hexDigit? c).map (value * 16 + ·)) 0
  if code < 0xD800 || (0xDFFF < code && code < 0x110000) then some (Char.ofNat code) else none

/-- The characters that single letters stand for after a backslash. -/
def escapes : List (Char × Char) :=
  [('b', '\x08'), ('t', '\t'), ('n', '\n'), ('f', '\x0C'), ('r', '\r'), ('"', '"'), ('\\', '\\')]

/-- Puts a character in front of a text that was read. -/
def prepend (c : Char) : Option (List Char × List Char) → Option (List Char × List Char)
  | some (content, rest) => some (c :: content, rest)
  | none => none

/-- A text in double quotes, after the opening quote. -/
def quotedText? : List Char → Option (List Char × List Char)
  | [] => none
  | '"' :: rest => some ([], rest)
  | '\\' :: 'u' :: a :: b :: c :: d :: rest =>
      (charOfHex? [a, b, c, d]).bind fun char => prepend char (quotedText? rest)
  | '\\' :: 'U' :: a :: b :: c :: d :: e :: f :: g :: h :: rest =>
      (charOfHex? [a, b, c, d, e, f, g, h]).bind fun char => prepend char (quotedText? rest)
  | '\\' :: letter :: rest =>
      (escapes.lookup letter).bind fun char => prepend char (quotedText? rest)
  | c :: rest => if isTextChar c && c ≠ '\\' then prepend c (quotedText? rest) else none

/-- A text in single quotes, after the opening quote. -/
def literalText? : List Char → Option (List Char × List Char)
  | [] => none
  | '\'' :: rest => some ([], rest)
  | c :: rest => if isTextChar c then prepend c (literalText? rest) else none

/-- Whether a line ends at the front of a text, apart from blanks. -/
def endsLine (text : List Char) : Bool := (newline? (skipBlanks text)).isSome

/-- A text between three double quotes, after the opening ones.  A backslash at the end of a line
takes away all blanks and line ends up to the next character; `trims` says that this is going
on. -/
def longQuotedText? (trims : Bool) : List Char → Option (List Char × List Char)
  | [] => none
  | '"' :: '"' :: '"' :: '"' :: '"' :: rest => some (['"', '"'], rest)
  | '"' :: '"' :: '"' :: '"' :: rest => some (['"'], rest)
  | '"' :: '"' :: '"' :: rest => some ([], rest)
  | '\r' :: '\n' :: rest =>
      if trims then longQuotedText? true rest else prepend '\n' (longQuotedText? false rest)
  | '\\' :: 'u' :: a :: b :: c :: d :: rest =>
      (charOfHex? [a, b, c, d]).bind fun char => prepend char (longQuotedText? false rest)
  | '\\' :: 'U' :: a :: b :: c :: d :: e :: f :: g :: h :: rest =>
      (charOfHex? [a, b, c, d, e, f, g, h]).bind fun char =>
        prepend char (longQuotedText? false rest)
  | '\\' :: letter :: rest =>
      match escapes.lookup letter with
      | some char => prepend char (longQuotedText? false rest)
      | none => if endsLine (letter :: rest) then longQuotedText? true (letter :: rest) else none
  | c :: rest =>
      if trims && (isBlank c || c = '\n') then longQuotedText? true rest
      else if c = '\n' || (isTextChar c && c ≠ '\\') then prepend c (longQuotedText? false rest)
      else none

/-- A text between three single quotes, after the opening ones. -/
def longLiteralText? : List Char → Option (List Char × List Char)
  | [] => none
  | '\'' :: '\'' :: '\'' :: '\'' :: '\'' :: rest => some (['\'', '\''], rest)
  | '\'' :: '\'' :: '\'' :: '\'' :: rest => some (['\''], rest)
  | '\'' :: '\'' :: '\'' :: rest => some ([], rest)
  | '\r' :: '\n' :: rest => prepend '\n' (longLiteralText? rest)
  | c :: rest =>
      if c = '\n' || isTextChar c then prepend c (longLiteralText? rest) else none

/-- A text without the line end at its front, if there is one. -/
def skipNewline (text : List Char) : List Char := (newline? text).getD text

/-- A text value of any form. -/
def textValue? : List Char → Option (List Char × List Char)
  | '"' :: '"' :: '"' :: rest => longQuotedText? false (skipNewline rest)
  | '"' :: rest => quotedText? rest
  | '\'' :: '\'' :: '\'' :: rest => longLiteralText? (skipNewline rest)
  | '\'' :: rest => literalText? rest
  | _ => none

end Texts

section Keys

/-- Whether a character may stand in a key without quotes. -/
def isKeyChar (c : Char) : Bool := c.isAlphanum || c = '-' || c = '_'

/-- One part of a dotted key. -/
def keyPart? (text : List Char) : Option (String × List Char) :=
  match text with
  | '"' :: rest => (quotedText? rest).map fun (name, left) => (String.ofList name, left)
  | '\'' :: rest => (literalText? rest).map fun (name, left) => (String.ofList name, left)
  | _ =>
      let name := text.takeWhile isKeyChar
      if name.isEmpty then none else some (String.ofList name, text.dropWhile isKeyChar)

/-- The parts of a dotted key, with blanks around each of them. -/
def keyParts? (text : List Char) : Option (List String × List Char) :=
  match keyPart? (skipBlanks text) with
  | none => none
  | some (part, rest) =>
      match skipBlanks rest with
      | '.' :: more =>
          if _h : more.length < text.length then
            (keyParts? more).map fun (parts, left) => (part :: parts, left)
          else none
      | left => some ([part], left)
termination_by text.length

/-- The number of levels at which nesting is refused. -/
def tooDeep : Nat := 80

/-- A dotted key as the path to its last part, and that part. -/
def key? (text : List Char) : Option (List String × String × List Char) := do
  let (parts, rest) ← keyParts? text
  let last ← parts.getLast?
  if tooDeep ≤ parts.length then none else some (parts.dropLast, last, rest)

end Keys

end Toml
end HeaderBindings

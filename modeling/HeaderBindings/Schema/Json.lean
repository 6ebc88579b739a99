/-!
# Nested data as JSON text

The data of a schema is made of texts, lists and tables whose keys keep their
order.  It is written with two blanks for each level of nesting; an empty list or
table is written without a line break.
-/

namespace HeaderBindings

/-- Nested data. -/
inductive Json where
  | text (value : String)
  | list (items : List Json)
  | table (fields : List (String × Json))

namespace Json

section Strings

/-- A digit in base 16, in lower case. -/
def hexDigit (value : Nat) : Char :=
  if value < 10 then Char.ofNat ('0'.toNat + value) else Char.ofNat ('a'.toNat + (value - 10))

/-- A character inside a quoted text.  Quotes, backslashes and controls are escaped. -/
def escape (c : Char) : List Char :=
  if c = '"' then ['\\', '"']
  else if c = '\\' then ['\\', '\\']
  else if c = '\x08' then ['\\', 'b']
  else if c = '\x0c' then ['\\', 'f']
  else if c = '\n' then ['\\', 'n']
  else if c = '\r' then ['\\', 'r']
  else if c = '\t' then ['\\', 't']
  else if c.toNat < 0x20 then
    ['\\', 'u', '0', '0', hexDigit (c.toNat / 16), hexDigit (c.toNat % 16)]
  else [c]

/-- A text between quotes. -/
def quote (text : String) : List Char :=
  '"' :: text.toList.flatMap escape ++ ['"']

end Strings

section Layout

/-- A new line at a level of nesting. -/
def newline (level : Nat) : List Char :=
  '\n' :: List.replicate (2 * level) ' '

mutual

/-- Data written at a level of nesting. -/
def renderAt (level : Nat) : Json → List Char
  | .text value => quote value
  | .list [] => ['[', ']']
  | .list (item :: items) =>
      '[' :: newline (level + 1) ++ renderAt (level + 1) item ++ renderItems (level + 1) items ++
        newline level ++ [']']
  | .table [] => ['\x7b', '\x7d']
  | .table ((name, value) :: fields) =>
      '\x7b' :: newline (level + 1) ++ quote name ++ [':', ' '] ++ renderAt (level + 1) value ++
        renderFields (level + 1) fields ++ newline level ++ ['\x7d']

/-- The items of a list after its first one. -/
def renderItems (level : Nat) : List Json → List Char
  | [] => []
  | item :: items => ',' :: newline level ++ renderAt level item ++ renderItems level items

/-- The fields of a table after its first one. -/
def renderFields (level : Nat) : List (String × Json) → List Char
  | [] => []
  | (name, value) :: fields =>
      ',' :: newline level ++ quote name ++ [':', ' '] ++ renderAt level value ++
        renderFields level fields

end

/-- Data written as text. -/
def render (json : Json) : String :=
  String.ofList (renderAt 0 json)

end Layout

end Json
end HeaderBindings

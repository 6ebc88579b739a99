import HeaderBindings.Toml.Number

/-!
# Reading TOML

A document is read line by line.  A header says which table the lines after it
belong to.  Values nest less than `tooDeep` levels.

**Algorithm.**  `value?` recurses on the number of levels that are left; the items of
a list and of a table in braces are read one after the other, each from what the
one before has left.
-/

namespace HeaderBindings
namespace Toml

section Values

/-- The items of a list, after its opening bracket.  A comma may stand after the last one. -/
def listItems? (item : List Char → Option (Toml × List Char)) (text : List Char) :
    Option (List Toml × List Char) :=
  match skipLines false text with
  | ']' :: rest => some ([], rest)
  | start =>
      match item start with
      | none => none
      | some (value, after) =>
          match skipLines false after with
          | ']' :: rest => some ([value], rest)
          | ',' :: more =>
              if _h : more.length < text.length then
                (listItems? item more).map fun (values, rest) => (value :: values, rest)
              else none
          | _ => none
termination_by text.length

/-- The keys and values of a table in braces, added to those before them. -/
def braceEntries? (item : List Char → Option (Toml × List Char)) (table : Toml)
    (text : List Char) : Option (Toml × List Char) :=
  match key? text with
  | some (path, key, '=' :: rest) =>
      match item (skipBlanks rest) with
      | none => none
      | some (value, after) =>
          match insert? path key value table, skipBlanks after with
          | some extended, '}' :: left => some (extended, left)
          | some extended, ',' :: more =>
              if _h : more.length < text.length then braceEntries? item extended more else none
          | _, _ => none
  | _ => none
termination_by text.length

/-- A table as a complete value. -/
def closed : Toml → Toml
  | .table _ entries => .table .braces entries
  | other => other

/-- A value that nests at most the given number of levels. -/
def value? : Nat → List Char → Option (Toml × List Char)
  | levels, source =>
      match source with
      | [] => none
      | c :: rest =>
          if c = '"' || c = '\'' then
            (textValue? source).map fun (content, left) => (.text (String.ofList content), left)
          else if c = '[' then
            match levels with
            | 0 => none
            | fewer + 1 =>
                (listItems? (value? fewer) rest).map fun (items, left) => (.list items, left)
          else if c = '{' then
            match levels with
            | 0 => none
            | fewer + 1 =>
                match skipBlanks rest with
                | '}' :: left => some (.table .braces [], left)
                | start =>
                    (braceEntries? (value? fewer) (.table .header []) start).map
                      fun (entries, left) => (closed entries, left)
          else
            match source with
            | 't' :: 'r' :: 'u' :: 'e' :: left => some (.flag true, left)
            | 'f' :: 'a' :: 'l' :: 's' :: 'e' :: left => some (.flag false, left)
            | _ =>
                match date? source with
                | some left => some (.date, left)
                | none => (number? source).map fun left => (.number, left)

end Values

section Documents

/-- A document that is being read, and the path of the last header. -/
structure Draft where
  document : Toml
  current : List String

/-- A key with its value, in the table of the last header. -/
def Draft.entryAt? (draft : Draft) (text : List Char) : Option (Draft × List Char) := do
  let (path, key, rest) ← key? text
  let rest ← expect? '=' rest
  let (value, rest) ← value? (tooDeep - 1) (skipBlanks rest)
  let rest ← lineEnd? rest
  let document ← changeAt .implied (insert? path key value) draft.current draft.document
  return ({ draft with document := document }, rest)

/-- The header of a table or of an item of a list of tables. -/
def Draft.header? (draft : Draft) (text : List Char) : Option (Draft × List Char) := do
  match text with
  | '[' :: '[' :: rest =>
      let (path, key, rest) ← key? rest
      let rest ← (expect? ']' rest).bind (expect? ']')
      let rest ← lineEnd? rest
      let document ← openItem? path key draft.document
      return (⟨document, path ++ [key]⟩, rest)
  | '[' :: rest =>
      let (path, key, rest) ← key? rest
      let rest ← expect? ']' rest
      let rest ← lineEnd? rest
      let document ← openTable? path key draft.document
      return (⟨document, path ++ [key]⟩, rest)
  | _ => none

/-- One line of a document that is not empty. -/
def Draft.line? (draft : Draft) (text : List Char) : Option (Draft × List Char) :=
  match text with
  | '#' :: _ => (lineEnd? text).map fun rest => (draft, rest)
  | '[' :: _ => draft.header? text
  | '\n' :: rest => some (draft, rest)
  | '\r' :: '\n' :: rest => some (draft, rest)
  | _ => draft.entryAt? text

/-- Reads a document to its end. -/
def Draft.read? (draft : Draft) (text : List Char) : Option Toml :=
  match skipBlanks text with
  | [] => some draft.document
  | start =>
      match draft.line? start with
      | none => none
      | some (draft, rest) =>
          if _h : rest.length < text.length then draft.read? rest else none
termination_by text.length

/-- A text without the mark that says that it is UTF-8. -/
def skipMark (text : List Char) : List Char :=
  match text with
  | '\uFEFF' :: rest => rest
  | _ => text

/-- The document of a text; `none` if the text is no TOML. -/
def parse? (text : String) : Option Toml :=
  Draft.read? ⟨.table .header [], []⟩ (skipMark text.toList)

end Documents

end Toml
end HeaderBindings

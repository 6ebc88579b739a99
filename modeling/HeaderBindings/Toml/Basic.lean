/-!
# TOML documents

A document is a table of keys and values.  Tables come up in several ways, and how
a table came up decides what may still be added to it:

* by a header of its own, which may come once;
* because the header of another table leads through it; then its own header may
  still come;
* by a dotted key; then only dotted keys of the same table may add to it;
* as a value in braces; then it is complete.

Of numbers and dates only the kind is kept.

**Main definitions.**
* `Toml.insert?`: puts a value under a dotted key.
* `Toml.openTable?`, `Toml.openItem?`: the headers of tables and of items of lists of
  tables.
-/

namespace HeaderBindings

/-- How a table came up. -/
inductive TableOrigin where
  | header
  | implied
  | dotted
  | braces
deriving DecidableEq

/-- A value of a document.  Tables keep their keys in the order in which they came up. -/
inductive Toml where
  | text (content : String)
  | flag (value : Bool)
  | number
  | date
  | list (items : List Toml)
  | table (origin : TableOrigin) (entries : List (String × Toml))
  /-- A list of tables that have headers. -/
  | tables (items : List Toml)

namespace Toml

section Entries

/-- The keys and values of a table, with their order. -/
abbrev Entries := List (String × Toml)

/-- The entries with the value of a key replaced. -/
def replace (key : String) (value : Toml) : Entries → Entries
  | [] => []
  | entry :: rest =>
      if entry.1 = key then (key, value) :: rest else entry :: replace key value rest

/-- The entries without a key. -/
def without (key : String) (entries : Entries) : Entries :=
  entries.filter fun entry => entry.1 ≠ key

/-- Changes the last item of a list. -/
def changeLast (change : Toml → Option Toml) : List Toml → Option (List Toml)
  | [] => none
  | [item] => (change item).map fun changed => [changed]
  | item :: rest => (changeLast change rest).map fun changed => item :: changed

end Entries

section Paths

/-- Changes the table that a path of keys leads to.  Missing tables on the way come up with the
given origin; a list of tables stands for its last item.  Dotted keys do not lead through a
table with a header. -/
def changeAt (origin : TableOrigin) (change : Toml → Option Toml) : List String → Toml → Option Toml
  | [], value => change value
  | key :: path, .table own entries =>
      match entries.lookup key with
      | none =>
          (changeAt origin change path (.table origin [])).map fun child =>
            .table own (entries ++ [(key, child)])
      | some (.table inner below) =>
          if inner = .braces || (origin = .dotted && inner = .header) then none
          else
            (changeAt origin change path (.table inner below)).map fun child =>
              .table own (replace key child entries)
      | some (.tables items) =>
          (changeLast (changeAt origin change path) items).map fun changed =>
            .table own (replace key (.tables changed) entries)
      | some _ => none
  | _ :: _, _ => none

/-- Puts a value under the last key of a dotted key.  The key must be free, and a table that
came up by dotted keys takes values by dotted keys only, as no other table does. -/
def insert? (path : List String) (key : String) (value : Toml) (table : Toml) : Option Toml :=
  changeAt .dotted (fun found =>
    match found with
    | .table origin entries =>
        if decide (origin = .dotted) == path.isEmpty then none
        else if (entries.lookup key).isSome then none
        else some (.table origin (entries ++ [(key, value)]))
    | _ => none) path table

/-- The header of a table.  A table that is only implied so far keeps its entries and moves
behind the keys that came up in the meantime. -/
def openTable? (path : List String) (key : String) (document : Toml) : Option Toml :=
  changeAt .implied (fun parent =>
    match parent with
    | .table origin entries =>
        match entries.lookup key with
        | none => some (.table origin (entries ++ [(key, .table .header [])]))
        | some (.table .implied below) =>
            some (.table origin (without key entries ++ [(key, .table .header below)]))
        | some _ => none
    | _ => none) path document

/-- The header of an item of a list of tables. -/
def openItem? (path : List String) (key : String) (document : Toml) : Option Toml :=
  changeAt .implied (fun parent =>
    match parent with
    | .table origin entries =>
        match entries.lookup key with
        | none => some (.table origin (entries ++ [(key, .tables [.table .header []])]))
        | some (.tables items) =>
            some (.table origin (replace key (.tables (items ++ [.table .header []])) entries))
        | some _ => none
    | _ => none) path document

end Paths

end Toml
end HeaderBindings

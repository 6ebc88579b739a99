import HeaderBindings.Toml.Parser
import HeaderBindings.Toolchain

/-!
# Batch files

A batch file lists the classes that one run extracts, with the settings of the run.

A document is decoded key by key in the order of the document, and the first fault
counts; keys that are missing come last.  A class can also be given as a list of
its header, its name and its namespace.

Relative paths in a batch file are relative to the directory of the file.
-/

namespace HeaderBindings

/-- Why a document is no batch file. -/
inductive DocumentFault where
  /-- The text is no TOML. -/
  | malformed
  | missingField (name : String)
  | unknownField (name : String)
  | invalidType
  /-- A list in place of a class has only this many items. -/
  | invalidLength (count : Nat)
deriving DecidableEq

/-- What is said about a fault. -/
def DocumentFault.message : DocumentFault → String
  | .malformed => "the text is no TOML"
  | .missingField name => "missing field `" ++ name ++ "`"
  | .unknownField name => "unknown field `" ++ name ++ "`"
  | .invalidType => "invalid type"
  | .invalidLength count => "invalid length " ++ toString count

/-- A class to extract. -/
structure ClassEntry where
  header : Path
  name : String
  /-- The target namespace of the class. -/
  space : String
deriving DecidableEq

/-- The contents of a batch file. -/
structure BatchConfig where
  compiler : String
  isRecursive : Bool
  includes : List Path
  args : List String
  outputDir : Path
  classes : List ClassEntry
deriving DecidableEq

namespace BatchConfig

section Values

/-- A text value. -/
def textOf : Toml → Except DocumentFault String
  | .text content => .ok content
  | _ => .error .invalidType

/-- A path value. -/
def pathOf (value : Toml) : Except DocumentFault Path :=
  (textOf value).map Path.mk

/-- A truth value. -/
def flagOf : Toml → Except DocumentFault Bool
  | .flag value => .ok value
  | _ => .error .invalidType

/-- A list of values of one kind. -/
def listOf {α : Type} (item : Toml → Except DocumentFault α) :
    Toml → Except DocumentFault (List α)
  | .list items => items.mapM item
  | .tables items => items.mapM item
  | _ => .error .invalidType

/-- A value that a key must have. -/
def required {α : Type} (name : String) : Option α → Except DocumentFault α
  | some value => .ok value
  | none => .error (.missingField name)

end Values

section Classes

/-- The keys of a class that were met so far. -/
structure ClassDraft where
  header : Option Path := none
  name : Option String := none
  space : Option String := none

/-- One key of a class. -/
def ClassDraft.add (draft : ClassDraft) (entry : String × Toml) :
    Except DocumentFault ClassDraft :=
  match entry.1 with
  | "header" => (pathOf entry.2).map fun value => { draft with header := some value }
  | "name" => (textOf entry.2).map fun value => { draft with name := some value }
  | "namespace" => (textOf entry.2).map fun value => { draft with space := some value }
  | other => .error (.unknownField other)

/-- A class given by keys. -/
def classOfEntries (entries : List (String × Toml)) : Except DocumentFault ClassEntry := do
  let draft ← entries.foldlM ClassDraft.add {}
  let header ← required "header" draft.header
  let name ← required "name" draft.name
  let space ← required "namespace" draft.space
  return ⟨header, name, space⟩

/-- The item of a list at a place. -/
def itemAt {α : Type} (item : Toml → Except DocumentFault α) (items : List Toml) (place : Nat) :
    Except DocumentFault α :=
  match items[place]? with
  | some value => item value
  | none => .error (.invalidLength place)

/-- A class given by a list; items after the third one do not count. -/
def classOfList (items : List Toml) : Except DocumentFault ClassEntry := do
  let header ← itemAt pathOf items 0
  let name ← itemAt textOf items 1
  let space ← itemAt textOf items 2
  return ⟨header, name, space⟩

/-- The key under which a date looks like a table. -/
def dateKey : String := "$__toml_private_datetime"

/-- A class. -/
def classOf : Toml → Except DocumentFault ClassEntry
  | .table _ entries => classOfEntries entries
  | .list items => classOfList items
  | .tables items => classOfList items
  | .date => .error (.unknownField dateKey)
  | _ => .error .invalidType

end Classes

section Documents

/-- The keys of a batch file that were met so far. -/
structure Draft where
  compiler : Option String := none
  isRecursive : Option Bool := none
  includes : Option (List Path) := none
  args : Option (List String) := none
  outputDir : Option Path := none
  classes : Option (List ClassEntry) := none

/-- One key of a batch file. -/
def Draft.add (draft : Draft) (entry : String × Toml) : Except DocumentFault Draft :=
  match entry.1 with
  | "compiler" => (textOf entry.2).map fun value => { draft with compiler := some value }
  | "recursive" => (flagOf entry.2).map fun value => { draft with isRecursive := some value }
  | "include" => (listOf pathOf entry.2).map fun value => { draft with includes := some value }
  | "args" => (listOf textOf entry.2).map fun value => { draft with args := some value }
  | "output_dir" => (pathOf entry.2).map fun value => { draft with outputDir := some value }
  | "class" => (listOf classOf entry.2).map fun value => { draft with classes := some value }
  | other => .error (.unknownField other)

/-- The batch file of a document. -/
def ofEntries (entries : List (String × Toml)) : Except DocumentFault BatchConfig := do
  let draft ← entries.foldlM Draft.add {}
  let outputDir ← required "output_dir" draft.outputDir
  return {
    compiler := draft.compiler.getD Compiler.defaultName
    isRecursive := draft.isRecursive.getD true
    includes := draft.includes.getD []
    args := draft.args.getD []
    outputDir := outputDir
    classes := draft.classes.getD [] }

/-- The batch file of a text. -/
def ofText (text : String) : Except DocumentFault BatchConfig :=
  match Toml.parse? text with
  | some (.table _ entries) => ofEntries entries
  | _ => .error .malformed

/-- A batch file with its relative paths taken from a directory. -/
def under (directory : Path) (config : BatchConfig) : BatchConfig :=
  { config with
    outputDir := directory.join config.outputDir
    includes := config.includes.map directory.join
    classes := config.classes.map fun entry =>
      { entry with header := directory.join entry.header } }

end Documents

end BatchConfig
end HeaderBindings

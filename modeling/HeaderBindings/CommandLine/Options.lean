import HeaderBindings.Native.Declarations
import HeaderBindings.Text.Search

/-!
# Options on a command line

An option has a long name, and perhaps a letter.  It asks for help, counts how often
it is given, is a switch, or takes values.  A value can follow as the next word,
after an equals sign, or, with a letter, right after the letter.  Letters without
values can stand together.  After `--` every word is a plain argument.

**Algorithm.**  The words are read from left to right.  An option or argument is
*pending* from the word that brings it up to the next option or argument; only
then its values are looked at.  So a word that is no option at all is reported
before a bad value in front of it.
-/

namespace HeaderBindings

/-- Why a command line is refused. -/
inductive UsageFault where
  | help
  /-- There is nothing on the command line. -/
  | nothingGiven
  | missingCommand
  | unknownCommand
  | unknownArgument
  /-- Something that is taken once is given twice. -/
  | repeatedArgument
  | missingArgument
  | invalidValue
  /-- A value is given to an option that takes none. -/
  | unneededValue
deriving DecidableEq

namespace CommandLine

section Options

/-- What can be given on a command line. -/
inductive Field where
  | help
  | verbose
  | className
  | space
  | access
  | output
  | outputDir
  | compiler
  | includeDir
  | extraArg
  | noRecursion
  | pathRoot
  | header
  | config
deriving DecidableEq

/-- What a value must look like. -/
inductive Form where
  | text
  /-- A path is never empty. -/
  | path
  | access
deriving DecidableEq

/-- The accessibilities by name. -/
def accessNames : List (String × Access) :=
  [("public", .isPublic), ("protected", .isProtected), ("private", .isPrivate)]

/-- Whether a value has a form. -/
def Form.admits (form : Form) (value : String) : Bool :=
  match form with
  | .text => true
  | .path => !value.isEmpty
  | .access => (accessNames.lookup value).isSome

/-- What an option does. -/
inductive Action where
  | askHelp
  | count
  | switch
  | single (form : Form)
  /-- Values are collected; they may begin with a hyphen if `takesHyphens` is set. -/
  | many (form : Form) (takesHyphens : Bool)
deriving DecidableEq

/-- Whether values belong to an action. -/
def Action.takesValue : Action → Bool
  | .single _ | .many _ _ => true
  | _ => false

/-- Whether values of an action may begin with a hyphen. -/
def Action.takesHyphens : Action → Bool
  | .many _ takesHyphens => takesHyphens
  | _ => false

/-- An option. -/
structure OptionSpec where
  field : Field
  long : String
  letter : Option Char := none
  action : Action

/-- The options of a command, and its argument without a name. -/
structure CommandRules where
  options : List OptionSpec
  argument : Option Field := none

end Options

section Scanning

/-- Something that was brought up, with its values so far. -/
structure Pending where
  field : Field
  action : Action
  values : List String := []

/-- What the words so far have given. -/
structure Scan where
  given : List (Field × String) := []
  count : Nat := 0
  pending : Option Pending := none
  /-- The next word is the value of what is pending. -/
  awaits : Bool := false
  /-- There was a `--`. -/
  isTrailing : Bool := false
  /-- The argument without a name was given. -/
  hasArgument : Bool := false

/-- The first value of a field. -/
def Scan.value? (scan : Scan) (field : Field) : Option String := scan.given.lookup field

/-- All values of a field. -/
def Scan.values (scan : Scan) (field : Field) : List String :=
  (scan.given.filter fun entry => entry.1 = field).map fun entry => entry.2

/-- The highest count of an option that is counted. -/
def highestCount : Nat := 255

/-- A value that has to have a form. -/
def Scan.add (scan : Scan) (field : Field) (form : Form) (value : String) :
    Except UsageFault Scan :=
  if form.admits value then .ok { scan with given := scan.given ++ [(field, value)] }
  else .error .invalidValue

/-- Carries out what was brought up. -/
def Scan.perform (scan : Scan) (brought : Pending) : Except UsageFault Scan :=
  match brought.action, brought.values with
  | .askHelp, _ => .error .help
  | .count, _ => .ok { scan with count := min (scan.count + 1) highestCount }
  | .switch, _ =>
      if (scan.value? brought.field).isSome then .error .repeatedArgument
      else .ok { scan with given := scan.given ++ [(brought.field, "")] }
  | .single form, value :: _ =>
      if (scan.value? brought.field).isSome then .error .repeatedArgument
      else scan.add brought.field form value
  | .many form _, value :: _ => scan.add brought.field form value
  | _, [] => .error .invalidValue

/-- Carries out what is pending. -/
def Scan.settle (scan : Scan) : Except UsageFault Scan :=
  match scan.pending with
  | none => .ok scan
  | some brought => { scan with pending := none, awaits := false }.perform brought

/-- Carries out what is pending, and then something else. -/
def Scan.settleAnd (scan : Scan) (brought : Pending) : Except UsageFault Scan := do
  (← scan.settle).perform brought

/-- Brings up something whose values come later. -/
def Scan.bring (scan : Scan) (brought : Pending) (awaits : Bool) : Except UsageFault Scan := do
  return { ← scan.settle with pending := some brought, awaits := awaits }

/-- Whether the next word is a value even if it looks like an option. -/
def Scan.takesHyphens (scan : Scan) : Bool :=
  scan.awaits && scan.pending.any fun brought => brought.action.takesHyphens

/-- A long option, with the value after its equals sign. -/
def Scan.longOption (rules : CommandRules) (scan : Scan) (name : List Char)
    (attached : Option (List Char)) : Except UsageFault Scan :=
  match rules.options.find? fun option => option.long.toList = name with
  | none => .error .unknownArgument
  | some option =>
      match option.action.takesValue, attached with
      | true, some value =>
          scan.settleAnd ⟨option.field, option.action, [String.ofList value]⟩
      | true, none => scan.bring ⟨option.field, option.action, []⟩ true
      | false, some _ => .error .unneededValue
      | false, none => scan.settleAnd ⟨option.field, option.action, []⟩

/-- Options given by letters, and the value that may follow the last letter. -/
def Scan.letters (rules : CommandRules) (scan : Scan) : List Char → Except UsageFault Scan
  | [] => .ok scan
  | letter :: rest =>
      match rules.options.find? fun option => option.letter = some letter with
      | none => .error .unknownArgument
      | some option =>
          if option.action.takesValue then
            match rest with
            | [] => scan.bring ⟨option.field, option.action, []⟩ true
            | '=' :: value =>
                scan.settleAnd ⟨option.field, option.action, [String.ofList value]⟩
            | value => scan.settleAnd ⟨option.field, option.action, [String.ofList value]⟩
          else do
            letters rules (← scan.settleAnd ⟨option.field, option.action, []⟩) rest

/-- The argument without a name. -/
def Scan.plain (rules : CommandRules) (scan : Scan) (word : String) : Except UsageFault Scan :=
  match rules.argument with
  | some field =>
      if scan.hasArgument then .error .unknownArgument
      else { scan with hasArgument := true }.bring ⟨field, .single .path, [word]⟩ false
  | none => .error .unknownArgument

/-- A word that is no option: the value that is awaited, or an argument. -/
def Scan.value (rules : CommandRules) (scan : Scan) (word : String) : Except UsageFault Scan :=
  match scan.awaits, scan.pending with
  | true, some brought =>
      .ok { scan with pending := some { brought with values := [word] }, awaits := false }
  | _, _ => scan.plain rules word

/-- The name of a long option and the value after its equals sign. -/
def splitLong (word : List Char) : List Char × Option (List Char) :=
  match Text.splitFirst? ['='] word with
  | some (name, value) => (name, some value)
  | none => (word, none)

/-- The next word. -/
def Scan.word (rules : CommandRules) (scan : Scan) (word : String) : Except UsageFault Scan :=
  if scan.isTrailing then scan.plain rules word
  else if scan.takesHyphens then scan.value rules word
  else
    match word.toList with
    | ['-', '-'] => .ok { scan with isTrailing := true }
    | '-' :: '-' :: rest =>
        let (name, attached) := splitLong rest
        scan.longOption rules name attached
    | '-' :: letter :: rest => scan.letters rules (letter :: rest)
    | _ => scan.value rules word

/-- All words of a command. -/
def Scan.words (rules : CommandRules) (scan : Scan) (words : List String) :
    Except UsageFault Scan := do
  (← words.foldlM (Scan.word rules) scan).settle

end Scanning

end CommandLine
end HeaderBindings

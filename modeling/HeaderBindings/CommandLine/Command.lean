import HeaderBindings.CommandLine.Options
import HeaderBindings.Toolchain

/-!
# Commands

The program has four commands: extract one class, extract the classes of a batch
file, list declarations, and show the include directories of a compiler.

How talkative the program is can be said before or after the name of the command;
what is said after it counts.
-/

namespace HeaderBindings

/-- The options of the commands that walk headers. -/
structure WalkOptions where
  /-- The compiler that is asked for its include directories. -/
  compiler : String
  includes : List Path
  args : List String
  isRecursive : Bool
deriving DecidableEq

/-- The options of the extraction of one class. -/
structure ExtractOptions where
  header : Path
  className : String
  /-- The target namespace. -/
  space : String
  access : Access
  output : Option Path
  outputDir : Path
  walk : WalkOptions
deriving DecidableEq

/-- The options of a listing. -/
structure DumpOptions where
  header : Path
  className : Option String
  pathRoot : Option String
  walk : WalkOptions
deriving DecidableEq

/-- A command. -/
inductive Command where
  | extract (options : ExtractOptions)
  | batch (config : Path)
  | dump (options : DumpOptions)
  | includePaths (compiler : String)
deriving DecidableEq

/-- What a command line says. -/
structure CommandLine where
  verbosity : Nat
  command : Command
deriving DecidableEq

namespace CommandLine

section Rules

/-- The options that every command has. -/
def commonOptions : List OptionSpec :=
  [⟨.help, "help", some 'h', .askHelp⟩, ⟨.verbose, "verbose", some 'v', .count⟩]

/-- The options of commands that walk headers. -/
def walkRules : List OptionSpec :=
  [⟨.compiler, "compiler", none, .single .text⟩,
    ⟨.includeDir, "include", some 'I', .many .path false⟩,
    ⟨.extraArg, "arg", none, .many .text true⟩,
    ⟨.noRecursion, "no-recursive", none, .switch⟩]

/-- The rules in front of the name of a command. -/
def topRules : CommandRules := { options := commonOptions }

/-- The rules for the extraction of one class. -/
def extractRules : CommandRules where
  options := commonOptions ++
    [⟨.className, "class", some 'c', .single .text⟩,
      ⟨.space, "namespace", some 'n', .single .text⟩,
      ⟨.access, "access", none, .single .access⟩,
      ⟨.output, "output", some 'o', .single .path⟩,
      ⟨.outputDir, "output-dir", none, .single .path⟩] ++ walkRules
  argument := some .header

/-- The rules for a batch file. -/
def batchRules : CommandRules where
  options := commonOptions
  argument := some .config

/-- The rules for a listing. -/
def dumpRules : CommandRules where
  options := commonOptions ++
    [⟨.className, "class", some 'c', .single .text⟩,
      ⟨.pathRoot, "path-root", none, .single .text⟩] ++ walkRules
  argument := some .header

/-- The rules for showing include directories. -/
def includePathsRules : CommandRules where
  options := commonOptions ++ [⟨.compiler, "compiler", none, .single .text⟩]

end Rules

section Commands

/-- A value that must be given. -/
def Scan.required (scan : Scan) (field : Field) : Except UsageFault String :=
  match scan.value? field with
  | some value => .ok value
  | none => .error .missingArgument

/-- The compiler that is named, or the default one. -/
def Scan.compiler (scan : Scan) : String := (scan.value? .compiler).getD Compiler.defaultName

/-- The options of commands that walk headers. -/
def Scan.walkOptions (scan : Scan) : WalkOptions where
  compiler := scan.compiler
  includes := (scan.values .includeDir).map Path.mk
  args := scan.values .extraArg
  isRecursive := (scan.value? .noRecursion).isNone

/-- The command to extract one class. -/
def extractOf (scan : Scan) : Except UsageFault Command := do
  let header ← scan.required .header
  let className ← scan.required .className
  let space ← scan.required .space
  return .extract {
    header := ⟨header⟩
    className := className
    space := space
    access := ((scan.value? .access).bind fun name => accessNames.lookup name).getD .isPublic
    output := (scan.value? .output).map Path.mk
    outputDir := ⟨(scan.value? .outputDir).getD "."⟩
    walk := scan.walkOptions }

/-- The command to extract the classes of a batch file. -/
def batchOf (scan : Scan) : Except UsageFault Command := do
  return .batch ⟨← scan.required .config⟩

/-- The command to list declarations. -/
def dumpOf (scan : Scan) : Except UsageFault Command := do
  let header ← scan.required .header
  return .dump {
    header := ⟨header⟩
    className := scan.value? .className
    pathRoot := scan.value? .pathRoot
    walk := scan.walkOptions }

/-- The command to show include directories. -/
def includePathsOf (scan : Scan) : Except UsageFault Command :=
  .ok (.includePaths scan.compiler)

/-- The commands by name: their rules, and what they make of what is given. -/
def commands : List (String × CommandRules × (Scan → Except UsageFault Command)) :=
  [("extract", extractRules, extractOf),
    ("batch", batchRules, batchOf),
    ("dump", dumpRules, dumpOf),
    ("include-paths", includePathsRules, includePathsOf)]

end Commands

section Parsing

/-- Whether a word names a command, or asks for help on one. -/
def isCommandName (word : String) : Bool :=
  word = "help" || (commands.lookup word).isSome

/-- Help on the command that the words name. -/
def helpOn : List String → UsageFault
  | [] => .help
  | [word] => if isCommandName word then .help else .unknownCommand
  | _ => .unknownCommand

/-- The words after the name of a command, given how often the program was asked before it to
be talkative. -/
def parseCommand (count : Nat) (rules : CommandRules)
    (make : Scan → Except UsageFault Command) (words : List String) :
    Except UsageFault CommandLine := do
  let scan ← Scan.words rules {} words
  let command ← make scan
  return ⟨if scan.count = 0 then count else scan.count, command⟩

/-- The words up to the name of a command. -/
def parseTop (scan : Scan) : List String → Except UsageFault CommandLine
  | [] => .error (if scan.count = 0 then .nothingGiven else .missingCommand)
  | word :: rest =>
      if scan.isTrailing then
        .error (if isCommandName word then .unknownArgument else .unknownCommand)
      else if word = "help" then .error (helpOn rest)
      else
        match commands.lookup word with
        | some (rules, make) => parseCommand scan.count rules make rest
        | none =>
            if word.toList.head? = some '-' && word ≠ "-" then
              match scan.word topRules word with
              | .error fault => .error fault
              | .ok scan => parseTop scan rest
            else .error .unknownCommand

/-- What a command line says, given its words without the name of the program. -/
def parse (words : List String) : Except UsageFault CommandLine := parseTop {} words

end Parsing

end CommandLine
end HeaderBindings

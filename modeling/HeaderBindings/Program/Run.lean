import HeaderBindings.Batch.File
import HeaderBindings.CommandLine.Command
import HeaderBindings.Listing
import HeaderBindings.Program.Progress

/-!
# Running commands

The *outcome* of a command holds all that can be seen of it: the files afterwards,
what it printed, what it reported at its end, the headers it asked the frontend for,
and the events.  Problems are reported only if the command succeeds.
-/

namespace HeaderBindings

/-- What can be seen of a command that was run. -/
structure Outcome where
  files : FileTree
  /-- What was printed. -/
  output : String := ""
  /-- What was reported at the end. -/
  report : String := ""
  /-- The headers that the frontend was asked for, and the arguments. -/
  requests : List (Path × List String) := []
  events : List Event := []
  failure : Option (List Reason) := none

namespace Outcome

/-- The report on the problems of a command. -/
def reportOf (diagnostics : List Diagnostic) : String :=
  if diagnostics.isEmpty then ""
  else
    toString diagnostics.length ++ " warnings:\n" ++
      String.join ((summary diagnostics).map fun line => "  " ++ line ++ "\n")

/-- The outcome of a command that failed before it began. -/
def refused (world : World) (reasons : List Reason) : Outcome where
  files := world.files
  failure := some reasons

/-- The outcome of a command that went through its stages. -/
def ofStage (stage : Stage) : Outcome :=
  let progress := stage.1
  let args := progress.survey.settings.compileArgs
  let outcome : Outcome :=
    { files := progress.files
      output := String.join (progress.lines.map fun line => line ++ "\n")
      requests := progress.requests.map fun path => (path, args)
      events := progress.events }
  match stage.2 with
  | .ok () => { outcome with report := reportOf (diagnosticsOf progress.events) }
  | .error reasons => { outcome with failure := some reasons }

end Outcome

namespace World

section Commands

/-- Extracts one class. -/
def extract (world : World) (options : ExtractOptions) : Outcome :=
  let walk := options.walk
  match world.start walk.compiler walk.includes walk.args walk.isRecursive with
  | .error reasons => Outcome.refused world reasons
  | .ok progress =>
      let selection : Selection := ⟨options.className, options.access⟩
      let extracted :=
        progress.extract world.frontend options.header [selection]
          ("extracting " ++ options.className ++ " from " ++ options.header.text)
      Outcome.ofStage <|
        extracted.andThen fun reached =>
          reached.writeClass options.header selection options.space options.output
            options.outputDir

/-- Extracts the classes of a batch file. -/
def batch (world : World) (path : Path) : Outcome :=
  match BatchConfig.load world.files path with
  | .error reasons => Outcome.refused world reasons
  | .ok config =>
      match world.start config.compiler config.includes config.args config.isRecursive with
      | .error reasons => Outcome.refused world reasons
      | .ok progress =>
          Outcome.ofStage
            (Progress.extractGroups world.frontend config.outputDir config.groups progress)

/-- The pattern that a listing leaves out of file names, if one is given. -/
def patternOf : Option String → Except (List Reason) (Option Pattern)
  | none => .ok none
  | some text =>
      match Pattern.ofText? text with
      | some pattern => .ok (some pattern)
      | none => .error [.message ("invalid --path-root `" ++ text ++ "`"), .badPattern]

/-- Lists the declarations of a walk. -/
def list (options : Listing.Options) (decls : List Decl) (progress : Progress) : Outcome :=
  let pieces := options.pieces decls
  let problems := pieces.flatMap fun piece => piece.problems
  let listed := { progress with events := progress.events ++ problems.map Event.problem }
  { Outcome.ofStage (listed, .ok ()) with
    output := String.join (pieces.map fun piece => piece.text) }

/-- Lists the declarations of a header. -/
def dump (world : World) (options : DumpOptions) : Outcome :=
  match patternOf options.pathRoot with
  | .error reasons => Outcome.refused world reasons
  | .ok pattern =>
      let walk := options.walk
      match world.start walk.compiler walk.includes walk.args walk.isRecursive with
      | .error reasons => Outcome.refused world reasons
      | .ok progress =>
          let step := progress.survey.parseAndWalk world.files world.frontend options.header
          let reached :=
            { progress with
              survey := step.survey
              requests := step.requests
              events := progress.events ++ step.events }
          match step.outcome with
          | .error failure =>
              Outcome.ofStage (reached, .error (Reason.ofError (.parse failure)))
          | .ok decls => list ⟨pattern, options.className⟩ decls reached

/-- Shows the include directories of a compiler. -/
def includePaths (world : World) (compiler : String) : Outcome :=
  match world.toolchain.searchPaths world.files compiler with
  | .error cause => Outcome.refused world (Reason.ofError (.discovery compiler cause))
  | .ok paths =>
      { files := world.files
        output := String.join (paths.map fun path => path.text ++ "\n")
        events := Toolchain.searchEvents compiler paths }

/-- Runs a command. -/
def run (world : World) : Command → Outcome
  | .extract options => world.extract options
  | .batch config => world.batch config
  | .dump options => world.dump options
  | .includePaths compiler => world.includePaths compiler

end Commands

end World
end HeaderBindings

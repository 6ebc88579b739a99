import HeaderBindings.Batch.Groups
import HeaderBindings.Program.Writing
import HeaderBindings.Toolchain

/-!
# The progress of a command

A command goes through stages.  Each stage changes the *progress* of the command:
the files, the survey, the lines printed, the headers asked for, and the events.  A
stage that fails keeps the progress up to the failure.
-/

namespace HeaderBindings

/-- Everything that commands depend on. -/
structure World where
  files : FileTree
  toolchain : Toolchain
  frontend : Frontend

/-- How far a command has come. -/
structure Progress where
  files : FileTree
  survey : Survey
  /-- The lines printed. -/
  lines : List String := []
  /-- The headers that the frontend was asked for. -/
  requests : List Path := []
  events : List Event := []

/-- The progress after a stage, and whether it succeeded. -/
abbrev Stage := Progress × Except (List Reason) Unit

namespace Stage

/-- Goes on with another stage if this one succeeded. -/
def andThen (stage : Stage) (next : Progress → Stage) : Stage :=
  match stage with
  | (progress, .ok ()) => next progress
  | (progress, .error reasons) => (progress, .error reasons)

end Stage

namespace World

/-- The survey that a command begins with: the include directories that the compiler reports
come before those that are given. -/
def start (world : World) (compiler : String) (includes : List Path) (args : List String)
    (isRecursive : Bool) : Except (List Reason) Progress :=
  match world.toolchain.searchPaths world.files compiler with
  | .error cause => .error (Reason.ofError (.discovery compiler cause))
  | .ok paths =>
      .ok {
        files := world.files
        survey :=
          { settings :=
              { isRecursive := isRecursive
                systemPaths := paths ++ includes
                extraArgs := args } }
        events := Toolchain.searchEvents compiler paths ++
          [.remark .info
            (toString paths.length ++ " system include directories from " ++ compiler)] }

end World

namespace Progress

section Stages

/-- Extracts classes from a header.  A failure is told in the given context. -/
def extract (progress : Progress) (frontend : Frontend) (header : Path)
    (selections : List Selection) (context : String) : Stage :=
  let step := progress.survey.extract progress.files frontend header selections
  let reached :=
    { progress with
      survey := step.survey
      requests := progress.requests ++ step.requests
      events := progress.events ++ step.events }
  match step.outcome with
  | .ok () => (reached, .ok ())
  | .error failure => (reached, .error (.message context :: Reason.ofError (.parse failure)))

/-- Writes the schema of a class and prints the path of its file. -/
def writeClass (progress : Progress) (header : Path) (selection : Selection) (space : String)
    (output : Option Path) (outputDir : Path) : Stage :=
  let writing := progress.survey.writeClass progress.files header selection space output outputDir
  let reached :=
    { progress with
      files := writing.files
      survey := writing.survey
      events := progress.events ++ writing.events }
  match writing.outcome with
  | .ok path => ({ reached with lines := reached.lines ++ [path.text] }, .ok ())
  | .error reasons => (reached, .error reasons)

/-- The selection of a class of a batch file: its public members. -/
def selectionOf (entry : ClassEntry) : Selection where
  className := entry.name

/-- Writes the schemas of classes of one header. -/
def writeClasses (header outputDir : Path) : List ClassEntry → Progress → Stage
  | [], progress => (progress, .ok ())
  | entry :: entries, progress =>
      Stage.andThen
        (progress.writeClass header (selectionOf entry) entry.space none outputDir)
        (writeClasses header outputDir entries)

/-- Extracts and writes the classes of one header. -/
def extractGroup (frontend : Frontend) (outputDir : Path) (group : HeaderGroup)
    (progress : Progress) : Stage :=
  Stage.andThen
    (progress.extract frontend group.header (group.classes.map selectionOf)
      ("extracting from " ++ group.header.text))
    (writeClasses group.header outputDir group.classes)

/-- Extracts and writes the classes of several headers, one header after the other. -/
def extractGroups (frontend : Frontend) (outputDir : Path) :
    List HeaderGroup → Progress → Stage
  | [], progress => (progress, .ok ())
  | group :: groups, progress =>
      Stage.andThen (extractGroup frontend outputDir group progress)
        (extractGroups frontend outputDir groups)

end Stages

end Progress
end HeaderBindings

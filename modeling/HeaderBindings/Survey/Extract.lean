import HeaderBindings.Survey.Basic

/-!
# Walking and extracting in a survey

Every operation gives a *step*: the survey afterwards, the headers that the
frontend was asked for, the events, and the outcome.  A step that fails still has
all of them, since headers stay marked as visited.
-/

namespace HeaderBindings

/-- What an operation on a survey did. -/
structure Step (α : Type) where
  survey : Survey
  requests : List Path := []
  events : List Event := []
  outcome : Except ParseFailure α

namespace Survey

section Walking

/-- Asks the frontend for a header. -/
def parse (survey : Survey) (frontend : Frontend) (path : Path) : Step SourceUnit where
  survey := survey
  requests := [path]
  outcome :=
    match frontend.parse path with
    | .ok unit => .ok unit
    | .error reason => .error ⟨path, reason⟩

/-- Walks a unit.  In recursive mode a unit that was visited before brings nothing; otherwise
the declarations of included headers come first.  Without recursion the whole unit is taken as
it is. -/
def walk (survey : Survey) (tree : FileTree) (frontend : Frontend) (unit : SourceUnit) :
    Step (List Decl) :=
  if survey.settings.isRecursive then
    if survey.isVisited tree unit.path then
      { survey := survey
        events := [.remark .debug (unit.path.text ++ " already walked")]
        outcome := .ok [] }
    else
      let marked := survey.markVisited tree unit.path
      let result := (marked.walkSetting tree frontend).walkUnit marked.visited unit
      { survey :=
          { marked with
            visited := result.visited
            walked := marked.walked ++ result.outcome.toOption.getD [] }
        requests := result.requests
        events := result.events
        outcome := result.outcome }
  else
    { survey := survey.markVisited tree unit.path
      outcome := .ok unit.decls }

/-- Asks for a header and walks it. -/
def parseAndWalk (survey : Survey) (tree : FileTree) (frontend : Frontend) (header : Path) :
    Step (List Decl) :=
  match frontend.parse header with
  | .error reason =>
      { survey := survey, requests := [header], outcome := .error ⟨header, reason⟩ }
  | .ok unit =>
      let walked := survey.walk tree frontend unit
      { walked with requests := header :: walked.requests }

end Walking

section Extracting

/-- Records the members of a list of declarations that fit a selection. -/
def collect (survey : Survey) (selection : Selection) (decls : List Decl) :
    Survey × List Event :=
  let (registry, events) := HeaderBindings.collect selection survey.registry decls
  ({ survey with registry := registry }, events)

/-- Extracts one class from declarations.  A class that has a record is left alone. -/
def extractOne (survey : Survey) (header : Path) (decls : List Decl) (selection : Selection) :
    Survey × List Event :=
  if survey.registry.isExtracted selection.className then
    (survey, [.remark .warn ("`" ++ selection.className ++ "` already extracted")])
  else
    let (collected, events) := survey.collect selection decls
    if collected.registry.isExtracted selection.className then (collected, events)
    else
      (collected,
        events ++
          [.remark .warn
            ("No " ++ selection.access.render ++ " members of `" ++ selection.className ++
              "` in " ++ header.text)])

/-- Extracts several classes from declarations, one after the other. -/
def extractAll (survey : Survey) (header : Path) (decls : List Decl) :
    List Selection → Survey × List Event
  | [] => (survey, [])
  | selection :: selections =>
      let (survey, events) := survey.extractOne header decls selection
      let (survey, more) := survey.extractAll header decls selections
      (survey, events ++ more)

/-- The declarations in which the classes of a header are looked up.  In recursive mode these
are all that walks have brought up, and a header that was visited before is not even parsed. -/
def declsOf (survey : Survey) (tree : FileTree) (frontend : Frontend) (header : Path) :
    Step (List Decl) :=
  if survey.settings.isRecursive then
    if survey.isVisited tree header then { survey := survey, outcome := .ok survey.walked }
    else
      let step := survey.parseAndWalk tree frontend header
      { step with outcome := step.outcome.map fun _ => step.survey.walked }
  else survey.parseAndWalk tree frontend header

/-- Walks a header and extracts the selected classes. -/
def extract (survey : Survey) (tree : FileTree) (frontend : Frontend) (header : Path)
    (selections : List Selection) : Step Unit :=
  let step := survey.declsOf tree frontend header
  match step.outcome with
  | .error failure =>
      { survey := step.survey
        requests := step.requests
        events := step.events
        outcome := .error failure }
  | .ok decls =>
      let (extracted, events) := step.survey.extractAll header decls selections
      { survey := extracted
        requests := step.requests
        events := step.events ++ events
        outcome := .ok () }

end Extracting

end Survey
end HeaderBindings

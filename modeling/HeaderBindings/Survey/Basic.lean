import HeaderBindings.Extraction
import HeaderBindings.FileTree.Operations
import HeaderBindings.Walk

/-!
# The state of an extraction run

A *survey* remembers which headers were visited, which declarations the walks
brought up, and the registry of classes.

A header is remembered under its visit key: the path of the file if there is one,
and otherwise the path as written without its `.` components.

**Results.**
* `isVisited_congr`: whether a header is visited depends on its key only.
-/

namespace HeaderBindings

section Settings

/-- What is decided before a run. -/
structure Settings where
  /-- Whether included headers are walked. -/
  isRecursive : Bool := true
  /-- Include directories of the system; headers below them are never walked. -/
  systemPaths : List Path := []
  extraArgs : List String := []
deriving DecidableEq

namespace Settings

/-- The arguments that every file is parsed with. -/
def baseArgs : List String := ["-xc++", "-std=c++11"]

/-- All arguments of the frontend: the base ones, an `-I` for each include directory of the
system, and the extra ones. -/
def compileArgs (settings : Settings) : List String :=
  baseArgs ++ settings.systemPaths.map (fun path => "-I" ++ path.text) ++ settings.extraArgs

/-- Whether a header is below an include directory of the system, as the path is written. -/
def isSystem (settings : Settings) (path : Path) : Bool :=
  settings.systemPaths.any fun directory => path.isBelow directory

end Settings

end Settings

/-- The path under which a header is remembered. -/
def visitKey (tree : FileTree) (path : Path) : Path :=
  (tree.canonical? path).getD path.withoutHere

/-- The state of a run. -/
structure Survey where
  settings : Settings
  visited : List Key := []
  /-- The declarations that recursive walks brought up, in order. -/
  walked : List Decl := []
  registry : Registry := {}

namespace Survey

/-- Whether a header was visited. -/
def isVisited (survey : Survey) (tree : FileTree) (path : Path) : Bool :=
  survey.visited.contains (visitKey tree path).components

/-- Whether a header is not walked into. -/
def shouldSkip (survey : Survey) (tree : FileTree) (path : Path) : Bool :=
  survey.isVisited tree path || survey.settings.isSystem path

/-- The survey with a header marked as visited. -/
def markVisited (survey : Survey) (tree : FileTree) (path : Path) : Survey :=
  { survey with visited := survey.visited ++ [(visitKey tree path).components] }

/-- The circumstances of a walk in this survey. -/
def walkSetting (survey : Survey) (tree : FileTree) (frontend : Frontend) : WalkSetting where
  frontend := frontend
  key path := (visitKey tree path).components
  isSystem := survey.settings.isSystem

theorem isVisited_congr (survey : Survey) (tree : FileTree) {p q : Path}
    (h : (visitKey tree p).same (visitKey tree q) = true) :
    survey.isVisited tree p = survey.isVisited tree q := by
  simp only [Path.same, decide_eq_true_eq] at h
  simp [isVisited, h]

end Survey
end HeaderBindings

import HeaderBindings.Native.Declarations

/-!
# Diagnostics and the journal of a run

Nothing that is reported as a diagnostic stops a run.  Everything that a run has to
say, diagnostics and remarks alike, is one list of *events* in the order in which
things happened; the diagnostics and the log are two views of it.

**Results.**
* `diagnosticsOf_append`, `logOf_append`: both views take two journals one after the
  other.
* `countOf_append`: so do the counts.
-/

namespace HeaderBindings

/-- The kinds of problems that are reported. -/
inductive DiagnosticKind where
  /-- A primitive type that has no name in the target. -/
  | unmappedPrimitive
  /-- A parameter that no target value can be turned into. -/
  | unknownConversion
  /-- A parameter type that cannot be declared in the target. -/
  | unknownParameterKind
  /-- The type of an argument does not fit its tokens. -/
  | invalidArgumentType
  /-- The frontend marked a declaration as invalid. -/
  | invalidDeclaration
  /-- Two native classes with the same target name. -/
  | targetNameCollision
deriving DecidableEq

/-- One reported problem. -/
structure Diagnostic where
  kind : DiagnosticKind
  message : String
  position : Option Position
deriving DecidableEq

/-- A problem as it is shown. -/
def Diagnostic.render (diagnostic : Diagnostic) : String :=
  match diagnostic.position with
  | some position => "WARN " ++ diagnostic.message ++ " at " ++ position.render
  | none => "WARN " ++ diagnostic.message

section Journal

/-- How important a line of the log is. -/
inductive Level where
  | warn
  | info
  | debug
deriving DecidableEq

/-- The rank of a level; a log at some level shows the lines of that rank and below. -/
def Level.rank : Level → Nat
  | .warn => 0
  | .info => 1
  | .debug => 2

/-- The name of a level at the start of a line. -/
def Level.render : Level → String
  | .warn => "WARN"
  | .info => "INFO"
  | .debug => "DEBUG"

/-- Something that happened in a run. -/
inductive Event where
  | problem (diagnostic : Diagnostic)
  | remark (level : Level) (text : String)
deriving DecidableEq

/-- The level at which an event is logged. -/
def Event.level : Event → Level
  | .problem _ => .warn
  | .remark level _ => level

/-- The line that logs an event. -/
def Event.line : Event → String
  | .problem diagnostic => Level.warn.render ++ " " ++ diagnostic.render
  | .remark level text => level.render ++ " " ++ text

/-- The problem that an event reports, if it does. -/
def Event.diagnostic? : Event → Option Diagnostic
  | .problem diagnostic => some diagnostic
  | .remark _ _ => none

/-- The diagnostics of a run, in order. -/
def diagnosticsOf (events : List Event) : List Diagnostic :=
  events.filterMap Event.diagnostic?

/-- The log of a run at a level. -/
def logOf (level : Level) (events : List Event) : List String :=
  (events.filter fun event => event.level.rank ≤ level.rank).map Event.line

@[simp] theorem diagnosticsOf_nil : diagnosticsOf [] = [] := rfl

@[simp] theorem diagnosticsOf_append (first second : List Event) :
    diagnosticsOf (first ++ second) = diagnosticsOf first ++ diagnosticsOf second := by
  simp [diagnosticsOf]

@[simp] theorem diagnosticsOf_map_problem (diagnostics : List Diagnostic) :
    diagnosticsOf (diagnostics.map Event.problem) = diagnostics := by
  induction diagnostics with
  | nil => rfl
  | cons d ds ih =>
      simp only [diagnosticsOf, List.map_cons] at ih ⊢
      simp [Event.diagnostic?, ih]

@[simp] theorem logOf_append (level : Level) (first second : List Event) :
    logOf level (first ++ second) = logOf level first ++ logOf level second := by
  simp [logOf]

end Journal

section Summary

/-- How many diagnostics are of a kind. -/
def countOf (kind : DiagnosticKind) (diagnostics : List Diagnostic) : Nat :=
  diagnostics.countP fun diagnostic => diagnostic.kind = kind

@[simp] theorem countOf_append (kind : DiagnosticKind) (first second : List Diagnostic) :
    countOf kind (first ++ second) = countOf kind first + countOf kind second := by
  simp [countOf]

/-- What a summary calls the problems of a kind, in the order of the summary. -/
def kindLabels : List (DiagnosticKind × String) :=
  [(.unmappedPrimitive, "unmapped primitive types"),
    (.unknownConversion, "unknown parameter conversions"),
    (.unknownParameterKind, "unknown parameter kinds"),
    (.invalidArgumentType, "suspicious argument types"),
    (.invalidDeclaration, "invalid declarations"),
    (.targetNameCollision, "target name collisions")]

/-- What to try when problems of a kind were seen. -/
def kindHints : List (DiagnosticKind × String) :=
  [(.invalidArgumentType,
      "hint: types that fail to resolve default to `int`; check that the system include paths " ++
       "reach the frontend"),
    (.unmappedPrimitive, "hint: extend the primitive type table for the reported types")]

/-- One line for each kind of problem that was seen, then hints. -/
def summary (diagnostics : List Diagnostic) : List String :=
  (kindLabels.filter fun (kind, _) => countOf kind diagnostics ≠ 0).map
      (fun (kind, label) => toString (countOf kind diagnostics) ++ " " ++ label) ++
    (kindHints.filter fun (kind, _) => countOf kind diagnostics ≠ 0).map fun (_, hint) => hint

end Summary

end HeaderBindings

import HeaderBindings.Check
import HeaderBindings.Registry
import HeaderBindings.Target.Conversion

/-!
# Turning declarations into methods

A *selection* names a class and an accessibility.  Of a list of declarations, the
constructors and methods that fit the selection are recorded in the registry, in
order; what is wrong with them is reported on the way.

**Results.**
* `collect_append`: declarations can be collected in two parts.
-/

namespace HeaderBindings

/-- The members that are extracted. -/
structure Selection where
  className : String
  access : Access := .isPublic
deriving DecidableEq

section Methods

/-- The record of an argument. -/
def Argument.param (argument : Argument) : MethodParam where
  name := argument.name
  type :=
    { target := Target.paramKind argument.type
      native := argument.type.spelling
      fromTarget := Target.fromTargetExpr argument.type.spelling }

/-- The problems with an argument of a method, in the order in which they are met. -/
def Argument.paramProblems (argument : Argument) : List Diagnostic :=
  argument.problems ++ Target.paramKindProblems argument ++
    Target.unmappedProblems (Target.paramKind argument.type) argument.position ++
    Target.conversionProblems argument.type.spelling argument.position

/-- What a member gives back: a constructor its class, a method its result. -/
def MethodKind.resultOf (kind : MethodKind) (decl : Decl) (parent : Parent) :
    TypeKind × String :=
  match kind with
  | .constructor => (parent.type.kind, parent.name)
  | .method =>
      let result := decl.result.getD NativeType.void
      (result.kind, result.spelling)

/-- The record of a member. -/
def buildMethod (kind : MethodKind) (decl : Decl) (parent : Parent) : Method :=
  let (resultKind, native) := kind.resultOf decl parent
  { kind := kind
    targetName := Target.methodName kind decl.name
    nativeName := decl.name
    params := decl.arguments.map Argument.param
    returnType :=
      { target := Target.typeName resultKind native
        native := native
        toTarget := Target.toTargetExpr native } }

/-- What is said while a member is recorded. -/
def methodEvents (kind : MethodKind) (decl : Decl) (parent : Parent) : List Event :=
  let (resultKind, native) := kind.resultOf decl parent
  (decl.arguments.flatMap Argument.paramProblems ++
      Target.unmappedProblems (Target.typeName resultKind native) decl.position).map
    Event.problem ++
  Target.toTargetRemarks native

end Methods

section Collecting

/-- The kind and parent of a member that fits a selection. -/
def Selection.member? (selection : Selection) (decl : Decl) : Option (MethodKind × Parent) :=
  if decl.access ≠ some selection.access then none
  else
    match decl.lexicalParent, MethodKind.ofDecl? decl.kind with
    | some parent, some kind =>
        if parent.name = selection.className then some (kind, parent) else none
    | _, _ => none

/-- Records a member in the registry, or reports that its class is refused. -/
def recordMember (registry : Registry) (decl : Decl) (kind : MethodKind) (parent : Parent) :
    Registry × List Event :=
  match registry.findOrCreate parent with
  | .ok (found, position) => (found.addMethod position (buildMethod kind decl parent), [])
  | .error collision =>
      (registry,
        [.problem
          { kind := .targetNameCollision
            message := collision.message
            position := some decl.position }])

/-- Records a declaration if it fits the selection. -/
def collectDecl (selection : Selection) (registry : Registry) (decl : Decl) :
    Registry × List Event :=
  if !decl.kind.isConcerned then (registry, [])
  else
    match selection.member? decl with
    | none => (registry, decl.problems.map Event.problem)
    | some (kind, parent) =>
        let (recorded, events) := recordMember registry decl kind parent
        (recorded, decl.problems.map Event.problem ++ methodEvents kind decl parent ++ events)

/-- Records every declaration that fits the selection. -/
def collect (selection : Selection) (registry : Registry) : List Decl → Registry × List Event
  | [] => (registry, [])
  | decl :: decls =>
      let (registry, events) := collectDecl selection registry decl
      let (registry, more) := collect selection registry decls
      (registry, events ++ more)

theorem collect_append (selection : Selection) (registry : Registry) (first second : List Decl) :
    collect selection registry (first ++ second) =
      ((collect selection (collect selection registry first).1 second).1,
        (collect selection registry first).2 ++
          (collect selection (collect selection registry first).1 second).2) := by
  induction first generalizing registry with
  | nil => simp [collect]
  | cons decl decls ih => simp [collect, ih]

end Collecting

end HeaderBindings

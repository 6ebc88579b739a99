import HeaderBindings.Native.Declarations

/-!
# Class interfaces

What the binding templates need to know about a class: its names and its
constructors and methods, in the order in which they were met.
-/

namespace HeaderBindings

/-- The two kinds of members that are recorded. -/
inductive MethodKind where
  | constructor
  | method
deriving DecidableEq

namespace MethodKind

/-- The name of a kind in a schema. -/
def render : MethodKind → String
  | .constructor => "CONSTRUCTOR"
  | .method => "CXX_METHOD"

/-- The kind with a given name. -/
def ofName? (name : String) : Option MethodKind :=
  if name = "CONSTRUCTOR" then some .constructor
  else if name = "CXX_METHOD" then some .method
  else none

/-- The kind of member that a declaration of some kind is, if it is one. -/
def ofDecl? : DeclKind → Option MethodKind
  | .constructor => some .constructor
  | .method => some .method
  | _ => none

@[simp] theorem ofName?_render (kind : MethodKind) : ofName? kind.render = some kind := by
  cases kind <;> rfl

end MethodKind

/-- The type of a parameter on both sides. -/
structure ParamType where
  /-- How the parameter is declared in the target. -/
  target : String
  native : String
  /-- The expression that turns a target value into the native argument. -/
  fromTarget : String
deriving DecidableEq

/-- The type of a result on both sides. -/
structure ReturnType where
  target : String
  native : String
  /-- The expression that turns the native result into a target value. -/
  toTarget : String
deriving DecidableEq

/-- A parameter of a method. -/
structure MethodParam where
  name : String
  type : ParamType
deriving DecidableEq

/-- A constructor or method. -/
structure Method where
  kind : MethodKind
  targetName : String
  nativeName : String
  params : List MethodParam
  returnType : ReturnType
deriving DecidableEq

/-- A class and its methods. -/
structure ClassType where
  targetName : String
  nativeName : String
  methods : List Method
deriving DecidableEq

/-- The two names of a type that a class depends on. -/
structure Dependency where
  native : String
  target : String
deriving DecidableEq

/-- Everything that is recorded about a class. -/
structure ClassInterface where
  /-- The namespace that the bindings are generated in. -/
  space : String
  dependencies : List Dependency
  classType : ClassType
deriving DecidableEq

/-- The record of a class of which nothing is known but its names. -/
def ClassInterface.fresh (targetName nativeName : String) : ClassInterface where
  space := nativeName
  dependencies := []
  classType := { targetName := targetName, nativeName := nativeName, methods := [] }

end HeaderBindings

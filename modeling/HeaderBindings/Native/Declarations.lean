import HeaderBindings.Native.Types
import HeaderBindings.Path

/-!
# Declarations of a parsed file

A frontend turns a file into a *source unit*: the headers it includes, in order,
and its declarations in the order of the text.
-/

namespace HeaderBindings

/-- A place in a source file. -/
structure Position where
  file : String := ""
  line : Nat := 0
  column : Nat := 0
deriving DecidableEq

/-- A place written as `file:line:column`. -/
def Position.render (position : Position) : String :=
  position.file ++ ":" ++ toString position.line ++ ":" ++ toString position.column

/-- The accessibility of a class member. -/
inductive Access where
  | isPublic
  | isProtected
  | isPrivate
deriving DecidableEq

/-- The name of an accessibility in messages. -/
def Access.render : Access → String
  | .isPublic => "Public"
  | .isProtected => "Protected"
  | .isPrivate => "Private"

/-- The kinds of declarations. -/
inductive DeclKind where
  | translationUnit
  | namespaceDecl
  | structDecl
  | classDecl
  | classTemplate
  | typedefDecl
  | constructor
  | destructor
  | method
  | functionDecl
  | fieldDecl
  | parmDecl
  | inclusionDirective
  | other
deriving DecidableEq

namespace DeclKind

/-- The kinds that extraction and listings look at. -/
def isConcerned : DeclKind → Bool
  | .structDecl | .typedefDecl | .classDecl | .constructor | .destructor | .method
  | .classTemplate => true
  | _ => false

/-- The name of a kind in messages and listings. -/
def render : DeclKind → String
  | .translationUnit => "TRANSLATION_UNIT"
  | .namespaceDecl => "NAMESPACE"
  | .structDecl => "STRUCT_DECL"
  | .classDecl => "CLASS_DECL"
  | .classTemplate => "CLASS_TEMPLATE"
  | .typedefDecl => "TYPEDEF_DECL"
  | .constructor => "CONSTRUCTOR"
  | .destructor => "DESTRUCTOR"
  | .method => "CXX_METHOD"
  | .functionDecl => "FUNCTION_DECL"
  | .fieldDecl => "FIELD_DECL"
  | .parmDecl => "PARM_DECL"
  | .inclusionDirective => "INCLUSION_DIRECTIVE"
  | .other => "OTHER"

end DeclKind

/-- The declaration that encloses another one. -/
structure Parent where
  name : String
  type : NativeType
deriving DecidableEq

/-- The class or struct with a given name, spelled as it is named. -/
def Parent.ofClass (name : String) : Parent where
  name := name
  type := NativeType.ofRecord name

/-- The name that tells classes apart: the spelling of the type, or the plain name where the
type has none. -/
def Parent.qualified (parent : Parent) : String :=
  if parent.type.spelling.isEmpty then parent.name else parent.type.spelling

/-- An argument of a constructor, method or function. -/
structure Argument where
  name : String
  type : NativeType
  /-- The tokens that the argument is written with. -/
  tokens : List String := []
  position : Position := {}
deriving DecidableEq

/-- One declaration of a file. -/
structure Decl where
  kind : DeclKind
  name : String
  access : Option Access := none
  type : Option NativeType := none
  result : Option NativeType := none
  /-- The declaration around this one in the text. -/
  lexicalParent : Option Parent := none
  /-- The declaration that this one belongs to. -/
  semanticParent : Option Parent := none
  arguments : List Argument := []
  /-- The first paragraph of the documentation comment. -/
  brief : Option String := none
  position : Position := {}
  /-- The file whose parsing brought this declaration up. -/
  file : Path := ⟨""⟩
  /-- The frontend could not make sense of the declaration. -/
  isInvalid : Bool := false
  /-- The declaration is written in an included header, not in the file itself. -/
  fromInclude : Bool := false
deriving DecidableEq

/-- A parsed file. -/
structure SourceUnit where
  path : Path
  includes : List Path := []
  decls : List Decl := []
deriving DecidableEq

/-- The declarations that are written in the file itself. -/
def SourceUnit.ownDecls (unit : SourceUnit) : List Decl :=
  unit.decls.filter fun decl => !decl.fromInclude

end HeaderBindings

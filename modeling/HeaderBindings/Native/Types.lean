/-!
# Native types

What a frontend reports about a C++ type: a kind tag, the spelling in the source
and a few qualities.
-/

namespace HeaderBindings

/-- The kinds of native types that matter here. -/
inductive TypeKind where
  | void
  | bool
  | charS
  | charU
  | sChar
  | uChar
  | wChar
  | char16
  | char32
  | short
  | uShort
  | int
  | uInt
  | long
  | uLong
  | longLong
  | uLongLong
  | int128
  | uInt128
  | float
  | double
  | longDouble
  | pointer
  | lValueReference
  | rValueReference
  | record
  | enum
  | typedef
  | functionPrototype
  /-- Any kind that is not told apart. -/
  | other
deriving DecidableEq

/-- What is known of a type on its own. -/
structure TypeFacts where
  kind : TypeKind
  /-- The spelling in the source, such as `const std::string &`. -/
  spelling : String
  /-- Whether values are plain data. -/
  isPlain : Bool := false
  isConst : Bool := false
deriving DecidableEq

/-- A native type, with what is known of the type that a pointer or reference leads to. -/
structure NativeType extends TypeFacts where
  pointee : Option TypeFacts := none
deriving DecidableEq

/-- The class or struct type with a given spelling. -/
def NativeType.ofRecord (spelling : String) : NativeType where
  kind := .record
  spelling := spelling

/-- The type of a function without a result. -/
def NativeType.void : NativeType where
  kind := .void
  spelling := "void"

end HeaderBindings

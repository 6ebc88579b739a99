import HeaderBindings.Interface
import HeaderBindings.Target.Primitive
import HeaderBindings.Text.LetterCase
import HeaderBindings.Text.Search

/-!
# Names in the target

A type name in the target is the last part of the native name, after all
namespaces, with its `_`-separated words capitalised and put together:
`GiNaC::my_class` becomes `MyClass`.
-/

namespace HeaderBindings
namespace Target

/-- What separates a namespace from the name in it. -/
def scopeMark : List Char := [':', ':']

/-- The part of a native name after its last namespace mark. -/
def baseName (name : List Char) : List Char :=
  match Text.splitLast? scopeMark name with
  | some (_, base) => base
  | none => name

/-- A name of words separated by `_` as one word, each part capitalised. -/
def pascalCase (name : List Char) : List Char :=
  (Text.splitOn '_' name).flatMap Text.capitalize

/-- The target name of a type of a given kind that is written as `spelling`. -/
def typeName (kind : TypeKind) (spelling : String) : String :=
  if isPrimitive kind then primitiveName kind spelling
  else String.ofList (pascalCase (baseName spelling.toList))

/-- The target name of every constructor. -/
def constructorName : String := "mk"

/-- The target name of a method. -/
def methodName : MethodKind → String → String
  | .constructor, _ => constructorName
  | .method, nativeName => nativeName

end Target
end HeaderBindings

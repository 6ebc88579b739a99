import HeaderBindings.Diagnostic
import HeaderBindings.Target.Primitive

/-!
# Conversions between native and target values

A conversion is an expression with the mark `%s` in the place of the value.  Text
has conversions of its own, recognised by the exact spelling of the type.  Scalars
pass through unchanged, because both sides represent them in the same way.

A parameter that cannot be converted or declared gets a conspicuous text in the
generated data and one diagnostic.
-/

namespace HeaderBindings
namespace Target

section Spellings

/-- Native spellings of text. -/
inductive TextSpelling where
  /-- `const std::string &` -/
  | stringReference
  /-- `const char *` -/
  | charPointer
  | other
deriving DecidableEq

/-- Recognises the spellings of text; every other way to write them counts as unknown. -/
def TextSpelling.ofSpelling (spelling : String) : TextSpelling :=
  if spelling = "const std::string &" then .stringReference
  else if spelling = "const char *" then .charPointer
  else .other

end Spellings

section Results

/-- What stands for the value in an expression. -/
def valueMark : String := "%s"

/-- The expression that turns a native value into a target value. -/
def toTargetExpr (spelling : String) : String :=
  match TextSpelling.ofSpelling spelling with
  | .stringReference => "lean_mk_string(" ++ valueMark ++ ".c_str())"
  | .charPointer => "lean_mk_string(" ++ valueMark ++ ")"
  | .other => valueMark

/-- What is said about a result that is passed on unchanged. -/
def toTargetRemarks (spelling : String) : List Event :=
  match TextSpelling.ofSpelling spelling with
  | .other => [.remark .debug ("Passing " ++ spelling ++ " to the target as is")]
  | _ => []

end Results

section Parameters

/-- The text in place of a conversion that is not known. -/
def unknownConversion : String := "UNKNOWN_FROM_TARGET_EXPR"

/-- The text in place of a declaration kind that is not known. -/
def unknownParameterKind : String := "UNKNOWN_TARGET_PARAM_KIND"

/-- How a borrowed text is declared. -/
def borrowedText : String := "@&String"

/-- The expression that turns a target value into a native argument, if there is one. -/
def fromTargetExpr? (spelling : String) : Option String :=
  match TextSpelling.ofSpelling spelling with
  | .stringReference | .charPointer => some ("lean_string_cstr(" ++ valueMark ++ ")")
  | .other => none

/-- The expression that turns a target value into a native argument. -/
def fromTargetExpr (spelling : String) : String :=
  (fromTargetExpr? spelling).getD unknownConversion

/-- The problem with an argument that no target value can be turned into. -/
def conversionProblems (spelling : String) (position : Position) : List Diagnostic :=
  match fromTargetExpr? spelling with
  | some _ => []
  | none =>
      [{ kind := .unknownConversion
         message := "Unknown from_target_expr for " ++ spelling
         position := some position }]

/-- How a parameter of a type is declared in the target, if that is known. -/
def paramKind? (type : NativeType) : Option String :=
  if type.isPlain && isPrimitive type.kind then some (primitiveName type.kind type.spelling)
  else
    match TextSpelling.ofSpelling type.spelling with
    | .stringReference => some borrowedText
    | .charPointer | .other => none

/-- How a parameter of a type is declared in the target. -/
def paramKind (type : NativeType) : String :=
  (paramKind? type).getD unknownParameterKind

/-- The problem with an argument that cannot be declared in the target. -/
def paramKindProblems (argument : Argument) : List Diagnostic :=
  match paramKind? argument.type with
  | some _ => []
  | none =>
      [{ kind := .unknownParameterKind
         message := "Unknown target param kind for " ++ argument.type.spelling
         position := some argument.position }]

/-- The problem with a target name that stands for a type without a counterpart. -/
def unmappedProblems (target : String) (position : Position) : List Diagnostic :=
  if isUnmapped target then
    [{ kind := .unmappedPrimitive
       message := "Unmapped primitive type " ++ target
       position := some position }]
  else []

end Parameters

end Target
end HeaderBindings

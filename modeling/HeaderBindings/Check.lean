import HeaderBindings.Diagnostic
import HeaderBindings.Text.Search

/-!
# Checks on what a frontend reports

A frontend that does not find a type takes it for `int` without a word.  An
argument whose type mentions `int` although its own tokens do not is therefore
suspicious.
-/

namespace HeaderBindings

/-- Whether a text mentions a word, also inside a longer one. -/
def mentions (word text : String) : Bool :=
  Text.isInside word.toList text.toList

/-- The problem with a declaration that the frontend could not make sense of. -/
def Decl.problems (decl : Decl) : List Diagnostic :=
  if decl.isInvalid then
    [{ kind := .invalidDeclaration
       message := "Invalid declaration " ++ decl.kind.render ++ " `" ++ decl.name ++ "`"
       position := some decl.position }]
  else []

/-- The tokens of an argument with blanks between them. -/
def Argument.tokenText (argument : Argument) : String :=
  String.ofList (Text.join [' '] (argument.tokens.map String.toList))

/-- Whether the type of an argument looks like the frontend's guess.  Spellings with
`unsigned int` are not suspected. -/
def Argument.isSuspicious (argument : Argument) : Bool :=
  mentions "int" argument.type.spelling && !mentions "int" argument.tokenText &&
    !mentions "unsigned int" argument.type.spelling

/-- The problem with an argument whose type looks like a guess. -/
def Argument.problems (argument : Argument) : List Diagnostic :=
  if argument.isSuspicious then
    [{ kind := .invalidArgumentType
       message := "Invalid argument type detected: " ++ argument.type.spelling ++ " != " ++
         argument.tokenText
       position := some argument.position }]
  else []

end HeaderBindings

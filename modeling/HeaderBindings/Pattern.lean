import HeaderBindings.Pattern.Machine
import HeaderBindings.Pattern.Parser

/-!
# Patterns

A pattern is given as text and removes the first stretch of a text that it
matches.  Of two matches the one that begins first counts, and of two with one
beginning the one that the pattern tries first.
-/

namespace HeaderBindings

/-- A pattern that is ready to run. -/
structure Pattern where
  machine : Pattern.Machine

namespace Pattern

/-- The pattern of a text; `none` if the text is no pattern. -/
def ofText? (text : String) : Option Pattern :=
  (Parser.read? text.toList).map fun expr => ⟨Machine.ofExpr expr⟩

/-- A text without the first match of a pattern; the whole text if there is none. -/
def removeFirst (pattern : Pattern) (text : String) : String :=
  String.ofList (pattern.machine.removeFrom none text.toList)

end Pattern
end HeaderBindings

import HeaderBindings.Path
import HeaderBindings.Text.Blank

/-!
# Include search lists of compilers

A compiler that is asked to be verbose prints the directories in which it looks
for system headers between two marker lines.
-/

namespace HeaderBindings
namespace SearchList

/-- What stands before the directories. -/
def startMarker : List Char := "#include <...> search starts here:".toList

/-- What stands after the directories. -/
def endMarker : List Char := "End of search list.".toList

/-- The part of an output that lists the directories: from the last start marker to the first
end marker after it, or to the end. -/
def listed (output : List Char) : Option (List Char) :=
  match Text.splitLast? startMarker output with
  | none => none
  | some (_, after) =>
      match Text.splitFirst? endMarker after with
      | none => some after
      | some (list, _) => some list

/-- The directories that an output lists, without the white space around them. -/
def directories (output : List Char) : List (List Char) :=
  match listed output with
  | none => []
  | some list => ((Text.lines list).map Text.trim).filter fun line => line ≠ []

/-- The include directories in the output of a compiler. -/
def parse (output : String) : List Path :=
  (directories output.toList).map fun directory => ⟨String.ofList directory⟩

end SearchList
end HeaderBindings

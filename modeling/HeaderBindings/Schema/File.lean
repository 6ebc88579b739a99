import HeaderBindings.Diagnostic
import HeaderBindings.Error

/-!
# Schema files

The schema of a class is kept in a file of its own.
-/

namespace HeaderBindings
namespace SchemaFile

/-- The tree with the schema of a class written to a file. -/
def write (tree : FileTree) (path : Path) (interface : ClassInterface) :
    Except Error FileTree :=
  match tree.write path interface.schemaText.toUTF8 with
  | .ok written => .ok written
  | .error cause => .error (.file path cause)

/-- What is said about a schema file that was written. -/
def writeEvents (path : Path) (interface : ClassInterface) : List Event :=
  [.remark .info
    ("Wrote " ++ interface.classType.targetName ++ " (" ++
      toString interface.classType.methods.length ++ " methods) to " ++ path.text)]

/-- The class of a schema file. -/
def read (tree : FileTree) (path : Path) : Except Error ClassInterface :=
  match tree.readText path with
  | .error cause => .error (.file path cause)
  | .ok content =>
      match ClassInterface.ofSchemaText content with
      | .ok interface => .ok interface
      | .error fault => .error (.schema fault)

end SchemaFile
end HeaderBindings

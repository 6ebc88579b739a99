import HeaderBindings.Batch.Groups
import HeaderBindings.Reason

/-!
# Reading a batch file

A batch file must list at least one class.
-/

namespace HeaderBindings

/-- Reads a batch file. -/
def BatchConfig.load (tree : FileTree) (path : Path) : Except (List Reason) BatchConfig :=
  match tree.readText path with
  | .error cause => .error [.message ("reading " ++ path.text), .message cause.message]
  | .ok content =>
      match BatchConfig.ofText content with
      | .error fault => .error [.message ("parsing TOML at " ++ path.text), .badDocument fault]
      | .ok config =>
          if config.classes.isEmpty then
            .error [.message ("no [[class]] entries in " ++ path.text)]
          else .ok (config.under (path.parent?.getD ⟨""⟩))

end HeaderBindings

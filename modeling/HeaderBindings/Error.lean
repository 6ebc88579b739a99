import HeaderBindings.FileTree.Operations
import HeaderBindings.Registry
import HeaderBindings.Schema.Class
import HeaderBindings.Walk

/-!
# Errors that stop an operation

Everything that can be worked around is a diagnostic.  What is left are these
errors, each with its wording and with the cause below it, if there is one.
-/

namespace HeaderBindings

/-- Why an operation stopped. -/
inductive Error where
  /-- The frontend could not parse a header. -/
  | parse (failure : ParseFailure)
  /-- The compiler could not be asked for its include directories. -/
  | discovery (compiler : String) (cause : OsError)
  /-- A file could not be read or written. -/
  | file (path : Path) (cause : OsError)
  /-- A schema file does not hold a schema. -/
  | schema (fault : ReadFault)
  /-- Two classes have the same target name. -/
  | collision (clash : Collision)

/-- What is said about a fault in a schema. -/
def ReadFault.message : ReadFault → String
  | .endOfText => "the schema ends too early"
  | .malformed => "the schema is not well formed"
  | .shape (.missingField name) => "missing field `" ++ name ++ "`"
  | .shape (.duplicateField name) => "duplicate field `" ++ name ++ "`"
  | .shape (.unknownVariant name) => "unknown variant `" ++ name ++ "`"
  | .shape .invalidType => "invalid type"
  | .shape (.invalidLength count) => "invalid length " ++ toString count

namespace Error

/-- The wording of an error. -/
def message : Error → String
  | .parse failure => "failed to parse " ++ failure.path.text ++ ": " ++ failure.reason
  | .discovery compiler cause =>
      "failed to run `" ++ compiler ++ "` to discover system include paths: " ++ cause.message
  | .file path cause => "I/O error on " ++ path.text ++ ": " ++ cause.message
  | .schema fault => fault.message
  | .collision clash => clash.message

/-- The wording of an error and of its cause. -/
def chain : Error → List String
  | .discovery compiler cause => [(Error.discovery compiler cause).message, cause.message]
  | .file path cause => [(Error.file path cause).message, cause.message]
  | error => [error.message]

end Error

end HeaderBindings

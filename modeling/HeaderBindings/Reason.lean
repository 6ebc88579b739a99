import HeaderBindings.Batch.Config
import HeaderBindings.Error

/-!
# Why a command failed

A command fails for a chain of reasons, from what it was doing down to the first
cause.
-/

namespace HeaderBindings

/-- One reason in the chain. -/
inductive Reason where
  | message (text : String)
  /-- A pattern cannot be read. -/
  | badPattern
  /-- A batch file cannot be decoded. -/
  | badDocument (fault : DocumentFault)
deriving DecidableEq

namespace Reason

/-- The wording of a reason. -/
def render : Reason → String
  | .message text => text
  | .badPattern => "the pattern cannot be read"
  | .badDocument fault => fault.message

/-- The reasons of an error. -/
def ofError (error : Error) : List Reason := error.chain.map .message

/-- The line that tells of a chain of reasons. -/
def renderAll (reasons : List Reason) : String :=
  "error: " ++ ": ".intercalate (reasons.map render)

end Reason
end HeaderBindings

/-!
# What can go wrong in a run

Every error of a run names its cause; `Error.message` puts it into words.
-/

namespace EbnfLexer

/-- An error of a run. -/
inductive Error where
  /-- The file under `path` cannot be read. -/
  | io (path reason : String)
  /-- A file of settings does not hold settings. -/
  | config (message : String)
  /-- Tokens cannot be written to JSON or read from it. -/
  | output (message : String)
  /-- Anything else. -/
  | internal (message : String)
  deriving DecidableEq, Repr

namespace Error

/-- An error in words. -/
def message : Error → String
  | io path reason => "Failed to read " ++ path ++ ": " ++ reason
  | config message => "Config error: " ++ message
  | output message => "Output error: " ++ message
  | internal message => "Internal error: " ++ message

/-- The reason below an error, where it is not part of the error itself. -/
def source? : Error → Option String
  | io _ reason => some reason
  | _ => none

end Error

end EbnfLexer

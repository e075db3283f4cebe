/-!
# What is found under a path

A run asks for files by their paths.  Under a path there is a file, a directory
or, for one of several reasons, nothing that can be reached.  Only a file that
holds correct UTF-8 can be read as text.
-/

namespace EbnfLexer.Files

/-- Why nothing can be read under a path. -/
inductive Obstacle where
  /-- There is no such file. -/
  | missing
  /-- There is a directory, not a file. -/
  | isDirectory
  /-- A file stands in the path where a directory is needed. -/
  | notDirectory
  /-- The path or one of its components is too long. -/
  | nameTooLong
  /-- The path holds a character that no path can hold. -/
  | nulInName
  /-- The file does not hold text. -/
  | notText
  /-- Any other reason, in the words of the system. -/
  | refused (reason : String)
  deriving DecidableEq, Repr

/-- An obstacle in words. -/
def Obstacle.message : Obstacle → String
  | missing => "No such file or directory (os error 2)"
  | isDirectory => "Is a directory (os error 21)"
  | notDirectory => "Not a directory (os error 20)"
  | nameTooLong => "File name too long (os error 36)"
  | nulInName => "file name contained an unexpected NUL byte"
  | notText => "stream did not contain valid UTF-8"
  | refused reason => reason

/-- What exists under a path. -/
inductive Found where
  | file (content : ByteArray)
  | directory
  /-- Something that the system does not let be read, and the reason in its words. -/
  | unreadable (reason : String)

/-- What is found under each path. -/
abbrev Lookup := String → Except Obstacle Found

/-- The text of a file that was found. -/
def Found.text : Found → Except Obstacle String
  | directory => .error .isDirectory
  | unreadable reason => .error (.refused reason)
  | file content =>
    match String.fromUTF8? content with
    | some text => .ok text
    | none => .error .notText

/-- The text of the file under a path. -/
def readText (files : Lookup) (path : String) : Except Obstacle String :=
  match files path with
  | .ok found => found.text
  | .error obstacle => .error obstacle

end EbnfLexer.Files

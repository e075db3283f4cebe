import EbnfLexer.CommandLine.Transcript

/-!
# The program

What a run writes is a function of its arguments, its environment and what is found
under two paths.  The program finds out what is there and writes it.  It keeps no log.
-/

namespace EbnfLexer.CommandLine

/-- The number of an error of the system, and the error in the words of the system. -/
def systemError? : IO.Error → Option (UInt32 × String)
  | .alreadyExists _ number details | .otherError number details
  | .resourceBusy number details | .resourceVanished number details
  | .unsupportedOperation number details | .hardwareFault number details
  | .unsatisfiedConstraints number details | .illegalOperation number details
  | .protocolError number details | .timeExpired number details
  | .interrupted _ number details | .noFileOrDirectory _ number details
  | .invalidArgument _ number details | .permissionDenied _ number details
  | .resourceExhausted _ number details | .inappropriateType _ number details
  | .noSuchThing _ number details =>
    some (number, details ++ " (os error " ++ toString number ++ ")")
  | .unexpectedEof | .userError _ => none

/-- Why nothing can be reached under a path that could not be opened. -/
def obstacleOf (error : IO.Error) : Files.Obstacle :=
  match systemError? error with
  | some (2, _) => .missing
  | some (20, _) => .notDirectory
  | some (36, _) => .nameTooLong
  | some (_, reason) => .refused reason
  | none => .refused (toString error)

/-- What exists under a path that could not be read. -/
def foundOf (error : IO.Error) : Files.Found :=
  match systemError? error with
  | some (21, _) => .directory
  | some (_, reason) => .unreadable reason
  | none => .unreadable (toString error)

/-- Whether anything exists under a path.  What lies behind a directory that must not be searched
does not. -/
def reachable (path : String) : IO Bool := do
  try
    discard (IO.FS.realPath path)
    return true
  catch _ =>
    return false

/-- What is found under a path. -/
def lookUp (path : String) : IO (Except Files.Obstacle Files.Found) := do
  if path.contains '\x00' then return .error .nulInName
  try
    let file ← IO.FS.Handle.mk path .read
    return .ok (.file (← file.readBinToEnd))
  catch error =>
    if ← reachable path then return .ok (foundOf error) else return .error (obstacleOf error)

/-- The paths that matter to a command line. -/
def relevantPaths (arguments : List String) : List String :=
  match Request.ofArguments arguments with
  | .ok (.run options) => [options.config, options.input]
  | _ => []

/-- Carries out what a command line asks for. -/
def execute (arguments : List String) : IO UInt32 := do
  let known ← (relevantPaths arguments).mapM fun path => do return (path, ← lookUp path)
  let files : Files.Lookup := fun path => (known.lookup path).getD (.error .missing)
  let environment ← IO.getEnv "RUST_LOG"
  let transcript := Transcript.ofArguments environment .silent files arguments
  for (channel, text) in transcript.pieces do
    match channel with
    | .output => IO.print text
    | .errors => IO.eprint text
  return transcript.code

end EbnfLexer.CommandLine

/-- The program. -/
def main (arguments : List String) : IO UInt32 :=
  EbnfLexer.CommandLine.execute arguments

import EbnfLexer.CommandLine.Flag

/-!
# What a command line asks for

Arguments are taken from left to right, and the first misuse that is met ends
the command line.  A parameter may have its value attached or in the argument
after it.  In the second case the value is settled only when the next flag is
met or the arguments end; an argument that is not expected at all is reported
before that.  A request for the version or for help is granted as soon as it is
met.

After the argument `--` there are no more flags, and no argument is expected
that is not a flag.
-/

namespace EbnfLexer.CommandLine

/-- The choices for a run. -/
structure Options where
  input : String := "data/default.yant"
  config : String := "yantlr.json"
  /-- The format of the output, where it is not left to the settings. -/
  format : Option OutputFormat := none
  verbose : Bool := false
  deriving DecidableEq, Repr

/-- What a command line asks for. -/
inductive Request where
  | run (options : Options)
  | version
  | help
  deriving DecidableEq, Repr

/-- The flags met so far. -/
structure Draft where
  input : Option String := none
  config : Option String := none
  format : Option OutputFormat := none
  verbose : Bool := false
  /-- The last flag, if it is a parameter that is not settled, with its value if it has one. -/
  pending : Option (Parameter × Option String) := none
  deriving DecidableEq, Repr

namespace Draft

/-- Whether a parameter has been settled. -/
def has (draft : Draft) : Parameter → Bool
  | .input => draft.input.isSome
  | .config => draft.config.isSome
  | .format => draft.format.isSome

/-- The draft with a value for a parameter. -/
def put (draft : Draft) (parameter : Parameter) (value : String) : Except Misuse Draft :=
  if draft.has parameter then .error (.repeated (.parameter parameter))
  else if value = "" then .error (.missingValue parameter)
  else
    match parameter with
    | .input => .ok { draft with input := some value }
    | .config => .ok { draft with config := some value }
    | .format =>
      match OutputFormat.ofArgument? false value with
      | some format => .ok { draft with format := some format }
      | none => .error (.invalidValue value .format)

/-- The draft with its last parameter settled. -/
def settle (draft : Draft) : Except Misuse Draft :=
  match draft.pending with
  | none => .ok draft
  | some (parameter, none) => .error (.missingValue parameter)
  | some (parameter, some value) => { draft with pending := none }.put parameter value

/-- The options of a draft, with defaults for those that it does not have. -/
def options (draft : Draft) : Options :=
  let defaults : Options := {}
  { input := draft.input.getD defaults.input
    config := draft.config.getD defaults.config
    format := draft.format
    verbose := draft.verbose }

end Draft

/-- Where reading goes on after a flag: with the draft, or nowhere, since a request is granted. -/
inductive Step where
  | more (draft : Draft)
  | granted (request : Request)
  deriving DecidableEq, Repr

/-- A switch is met. -/
def takeSwitch (draft : Draft) (switch : Switch) : Except Misuse Step := do
  let draft ← draft.settle
  match switch with
  | .version => return .granted .version
  | .help => return .granted .help
  | .verbose =>
    if draft.verbose then throw (.repeated (.switch .verbose))
    else return .more { draft with verbose := true }

/-- A parameter is met, with or without an attached value. -/
def takeParameter (draft : Draft) (parameter : Parameter) (attached : Option String) :
    Except Misuse Step := do
  let draft ← draft.settle
  match attached with
  | some value => return .more (← draft.put parameter value)
  | none => return .more { draft with pending := some (parameter, none) }

/-- An argument with a long name and, after an equals sign, an attached value; read from after the
two hyphens. -/
def takeLong (draft : Draft) (argument : List Char) : Except Misuse Step :=
  let name := String.ofList (argument.takeWhile (· ≠ '='))
  let attached := match argument.dropWhile (· ≠ '=') with
    | [] => none
    | _ :: value => some (String.ofList value)
  match Flag.ofName? name with
  | none => .error (.unexpectedArgument ("--" ++ name))
  | some (.parameter parameter) => takeParameter draft parameter attached
  | some (.switch switch) =>
    match attached with
    | some value => .error (.unexpectedValue value switch)
    | none => takeSwitch draft switch

/-- An argument of letters, each of them a flag until one is a parameter.  What follows the letter
of a parameter is its value, without one equals sign at the beginning. -/
def takeLetters (draft : Draft) : List Char → Except Misuse Step
  | [] => .ok (.more draft)
  | letter :: rest =>
    match Flag.ofLetter? letter with
    | none => .error (.unexpectedArgument (String.ofList ['-', letter]))
    | some (.parameter parameter) =>
      takeParameter draft parameter (match rest with
        | [] => none
        | '=' :: value => some (String.ofList value)
        | value => some (String.ofList value))
    | some (.switch switch) => do
      match ← takeSwitch draft switch with
      | .granted request => return .granted request
      | .more draft => takeLetters draft rest

/-- An argument that is no flag: the value of the parameter before it, or not expected. -/
def takeValue (draft : Draft) (argument : String) : Except Misuse Step :=
  match draft.pending with
  | some (parameter, none) => .ok (.more { draft with pending := some (parameter, some argument) })
  | _ => .error (.unexpectedArgument argument)

/-- The end of the arguments. -/
def finish (draft : Draft) : Except Misuse Request := do
  return .run (← draft.settle).options

/-- What some arguments ask for, after those of a draft. -/
def readFrom (draft : Draft) : List String → Except Misuse Request
  | [] => finish draft
  | argument :: rest =>
    let step := match argument.toList with
      | ['-', '-'] => none
      | '-' :: '-' :: long => some (takeLong draft long)
      | '-' :: letter :: letters => some (takeLetters draft (letter :: letters))
      | _ => some (takeValue draft argument)
    match step with
    | none =>
      match rest with
      | [] => finish draft
      | argument :: _ => .error (.unexpectedArgument argument)
    | some (.error misuse) => .error misuse
    | some (.ok (.granted request)) => .ok request
    | some (.ok (.more draft)) => readFrom draft rest

/-- What a command line asks for. -/
def Request.ofArguments (arguments : List String) : Except Misuse Request :=
  readFrom {} arguments

end EbnfLexer.CommandLine

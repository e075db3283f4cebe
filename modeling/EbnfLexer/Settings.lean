import EbnfLexer.Error
import EbnfLexer.Files.Found
import EbnfLexer.Json.Layout
import EbnfLexer.Json.Record

/-!
# Settings

Settings are kept in a file of JSON.  Each setting that the file does not give
has its default, and without a file all of them have.  Settings that are not
known are passed over.
-/

namespace EbnfLexer

open Json

/-- How tokens are written. -/
inductive OutputFormat where
  /-- A listing. -/
  | text
  /-- A JSON list. -/
  | json
  deriving DecidableEq, Repr

namespace OutputFormat

/-- Every format. -/
def all : List OutputFormat := [text, json]

/-- The name of a format. -/
def name : OutputFormat → String
  | text => "text"
  | json => "json"

/-- The format that an argument names.  Case is ignored for the letters of ASCII only. -/
def ofArgument? (ignoreCase : Bool) (argument : String) : Option OutputFormat :=
  all.find? fun format =>
    if ignoreCase then format.name.toLower == argument.toLower else format.name == argument

/-- What is said of an argument that names no format. -/
def noSuchFormat (argument : String) : String := "invalid variant: " ++ argument

/-- Formats by their names. -/
def reader : Reader OutputFormat := .choice ⟨all, name⟩

end OutputFormat

/-- The settings of a run. -/
structure Settings where
  outputFormat : OutputFormat := .text
  prettyJson : Bool := true
  /-- Which messages go to the log. -/
  logLevel : String := "info"
  deriving DecidableEq, Repr

namespace Settings

/-- Settings as an object on one line. -/
def write (settings : Settings) : List Char :=
  Layout.compact.object 0
    [("output_format", writeString settings.outputFormat.name),
      ("pretty_json", writeBool settings.prettyJson),
      ("log_level", writeString settings.logLevel)]

/-- The settings that have been read. -/
structure Draft where
  outputFormat : Option OutputFormat := none
  prettyJson : Option Bool := none
  logLevel : Option String := none

/-- The settings of a draft, with defaults for those that it does not have. -/
def ofDraft (draft : Draft) : Settings :=
  let defaults : Settings := {}
  { outputFormat := draft.outputFormat.getD defaults.outputFormat
    prettyJson := draft.prettyJson.getD defaults.prettyJson
    logLevel := draft.logLevel.getD defaults.logLevel }

/-- Settings as records.  None has to be given. -/
def record : Record Draft Settings where
  name := "struct CliConfig"
  arity := "struct CliConfig with 3 elements"
  empty := {}
  fields := [
    .of "output_format" (·.outputFormat.isSome) OutputFormat.reader
      fun draft outputFormat => { draft with outputFormat },
    .of "pretty_json" (·.prettyJson.isSome) .bool
      fun draft prettyJson => { draft with prettyJson },
    .of "log_level" (·.logLevel.isSome) .text fun draft logLevel => { draft with logLevel }]
  finish draft := .ok (ofDraft draft)

/-- The settings under a path.  They are the defaults where nothing is found, and a file that is
found has to hold settings. -/
def load (files : Files.Lookup) (path : String) : Except Error Settings :=
  match files path with
  | .error _ => .ok {}
  | .ok found =>
    match found.text with
    | .error obstacle => .error (.io path obstacle.message)
    | .ok text =>
      match decode record.reader text with
      | .ok settings => .ok settings
      | .error why => .error (.config (path ++ ": " ++ why))

end Settings

end EbnfLexer

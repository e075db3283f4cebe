import EbnfLexer.CommandLine.Request
import EbnfLexer.Lexer
import EbnfLexer.Listing
import EbnfLexer.Source
import EbnfLexer.Token.Json

/-!
# The outcome of a run

A run first reads its settings, then its input, and writes all tokens or, if
something is wrong, none of them and one line of complaint.  The format given on
the command line is stronger than the one of the settings.
-/

namespace EbnfLexer.CommandLine

/-- What a run leaves behind: its exit code, what it writes, and its complaint if it has one. -/
structure Outcome where
  code : UInt32
  output : String
  complaint : Option String
  deriving DecidableEq, Repr

/-- Tokens as they are written in a format. -/
def render (format : OutputFormat) (prettyJson : Bool) (tokens : List (Token UInt64)) : String :=
  match format with
  | .text => listing tokens
  | .json =>
    String.ofList (writeTokens (if prettyJson then .indented else .compact) tokens ++ ['\n'])

namespace Outcome

/-- A run that does what it was asked for. -/
def success (output : String) : Outcome := ⟨0, output, none⟩

/-- A run that ends with an error. -/
def failure (error : Error) : Outcome := ⟨1, "", some ("Error: " ++ error.message)⟩

/-- A run that was not asked for correctly. -/
def misuse (misuse : Misuse) : Outcome := ⟨2, "", some ("error: " ++ misuse.message)⟩

/-- The outcome of turning the input into tokens. -/
def ofOptions (files : Files.Lookup) (options : Options) : Outcome :=
  match Settings.load files options.config with
  | .error error => failure error
  | .ok settings =>
    match readLines files options.input with
    | .error error => failure error
    | .ok lines =>
      success (render (options.format.getD settings.outputFormat) settings.prettyJson
        (tokenize lines))

/-- The name and number of this program. -/
def versionText : String := "yantlr 0.1.0\n"

/-- How this program is used. -/
def helpText : String :=
  String.join ([
    "Tokenize an EBNF grammar file",
    "",
    "Usage: yantlr [OPTIONS]",
    "",
    "Options:",
    "  -i, --input <INPUT>    Grammar file to tokenize [default: data/default.yant]",
    "  -c, --config <CONFIG>  Path to config file [default: yantlr.json]",
    "  -f, --format <FORMAT>  Output format, overrides the config file " ++
      "[possible values: text, json]",
    "  -v, --verbose          Enable debug mode",
    "  -h, --help             Print help",
    "  -V, --version          Print version"].map fun line => line ++ "\n")

/-- The outcome of what was asked for. -/
def ofRequest (files : Files.Lookup) : Request → Outcome
  | .run options => ofOptions files options
  | .version => success versionText
  | .help => success helpText

/-- The outcome of a command line. -/
def ofArguments (files : Files.Lookup) (arguments : List String) : Outcome :=
  match Request.ofArguments arguments with
  | .ok request => ofRequest files request
  | .error wrong => misuse wrong

end Outcome

end EbnfLexer.CommandLine

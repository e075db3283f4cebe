import EbnfLexer.CommandLine.Outcome

/-!
# What a run writes

On its way a run says what it is doing.  At every stage a logger is told what has
happened (`Event`), and it is up to the logger to put this into lines or to pass over
it.  What is of interest is told to it by a directive.  The environment may give one;
otherwise it is `debug` for a run that is to be verbose, and the level of the settings
for any other run.  Until the settings are loaded there is no directive and no log.

The log goes where complaints go, and only tokens are written to the output.
-/

namespace EbnfLexer.CommandLine

/-- Where a run writes. -/
inductive Channel where
  | output
  | errors
  deriving DecidableEq, Repr

/-- What has happened in a run. -/
inductive Event where
  /-- The run has its settings. -/
  | configured (settings : Settings)
  /-- A file was read and has so many lines. -/
  | loaded (path : String) (lineCount : Nat)
  /-- Lines were turned into tokens. -/
  | tokenized (lines : List String) (tokens : List (Token UInt64))
  /-- The tokens of a file were written. -/
  | finished (path : String) (tokenCount lineCount : Nat)
  deriving DecidableEq, Repr

/-- The lines that are logged of an event under a directive. -/
abbrev Logger := String → Event → List String

/-- A logger that passes over everything. -/
def Logger.silent : Logger := fun _ _ => []

/-- The directive for the log of a run. -/
def Options.directive (options : Options) (environment : Option String) (settings : Settings) :
    String :=
  environment.getD (if options.verbose then "debug" else settings.logLevel)

/-- What a run writes, piece by piece, and its exit code. -/
structure Transcript where
  code : UInt32
  pieces : List (Channel × String)
  deriving DecidableEq, Repr

namespace Transcript

/-- All that is written to one channel. -/
def text (transcript : Transcript) (channel : Channel) : String :=
  String.join ((transcript.pieces.filter fun piece => piece.1 = channel).map (·.2))

/-- A line of the log or a complaint. -/
def errorLine (line : String) : Channel × String := (.errors, line ++ "\n")

/-- What an outcome has to be written. -/
def ofOutcome (outcome : Outcome) : Transcript :=
  ⟨outcome.code, (.output, outcome.output) :: outcome.complaint.toList.map errorLine⟩

/-- A transcript with logs before and behind it. -/
def within (transcript : Transcript) (before after : List String) : Transcript :=
  { transcript with
    pieces := before.map errorLine ++ transcript.pieces ++ after.map errorLine }

/-- What turning the input into tokens writes. -/
def ofOptions (environment : Option String) (logger : Logger) (files : Files.Lookup)
    (options : Options) : Transcript :=
  match Settings.load files options.config with
  | .error error => ofOutcome (.failure error)
  | .ok settings =>
    let log := logger (options.directive environment settings)
    match readLines files options.input with
    | .error error => (ofOutcome (.failure error)).within (log (.configured settings)) []
    | .ok lines =>
      let tokens := tokenize lines
      let rendered := render (options.format.getD settings.outputFormat) settings.prettyJson tokens
      (ofOutcome (.success rendered)).within
        (log (.configured settings) ++ log (.loaded options.input lines.length) ++
          log (.tokenized lines tokens))
        (log (.finished options.input tokens.length lines.length))

/-- What a command line writes. -/
def ofArguments (environment : Option String) (logger : Logger) (files : Files.Lookup)
    (arguments : List String) : Transcript :=
  match Request.ofArguments arguments with
  | .ok (.run options) => ofOptions environment logger files options
  | .ok request => ofOutcome (.ofRequest files request)
  | .error wrong => ofOutcome (.misuse wrong)

end Transcript

end EbnfLexer.CommandLine

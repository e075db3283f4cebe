import EbnfLexer.Settings
import EbnfLexer.Text.ControlSequence

/-!
# Flags of the command line

A flag has a long name and a letter.  A *parameter* is a flag that takes a value,
a *switch* is one that does not.

A message about a misuse quotes what was given on the command line, without
anything that would steer the terminal on which the message is read.
-/

namespace EbnfLexer.CommandLine

/-- A flag with a value. -/
inductive Parameter where
  | input
  | config
  | format
  deriving DecidableEq, Repr

/-- A flag without a value. -/
inductive Switch where
  | verbose
  | version
  | help
  deriving DecidableEq, Repr

/-- A flag. -/
inductive Flag where
  | parameter (parameter : Parameter)
  | switch (switch : Switch)
  deriving DecidableEq, Repr

namespace Flag

/-- Every flag. -/
def all : List Flag :=
  [parameter .input, parameter .config, parameter .format,
    switch .verbose, switch .version, switch .help]

/-- The long name of a flag. -/
def name : Flag → String
  | parameter .input => "input"
  | parameter .config => "config"
  | parameter .format => "format"
  | switch .verbose => "verbose"
  | switch .version => "version"
  | switch .help => "help"

/-- The letter of a flag. -/
def letter : Flag → Char
  | parameter .input => 'i'
  | parameter .config => 'c'
  | parameter .format => 'f'
  | switch .verbose => 'v'
  | switch .version => 'V'
  | switch .help => 'h'

/-- The flag with a given long name. -/
def ofName? (name : String) : Option Flag := all.find? fun flag => flag.name == name

/-- The flag with a given letter. -/
def ofLetter? (letter : Char) : Option Flag := all.find? fun flag => flag.letter == letter

/-- A flag as it is shown in messages. -/
def usage : Flag → String
  | parameter .input => "--input <INPUT>"
  | parameter .config => "--config <CONFIG>"
  | parameter .format => "--format <FORMAT>"
  | switch .verbose => "--verbose"
  | switch .version => "--version"
  | switch .help => "--help"

end Flag

/-- A misuse of the command line. -/
inductive Misuse where
  /-- An argument that is no flag and no value of one. -/
  | unexpectedArgument (argument : String)
  /-- A parameter without a value. -/
  | missingValue (parameter : Parameter)
  /-- A flag that is given twice. -/
  | repeated (flag : Flag)
  /-- A value that the parameter does not admit. -/
  | invalidValue (value : String) (parameter : Parameter)
  /-- A switch with a value. -/
  | unexpectedValue (value : String) (switch : Switch)
  deriving DecidableEq, Repr

/-- A text from the command line as it is quoted in messages. -/
def Misuse.quote (text : String) : String := "'" ++ Text.plain text ++ "'"

/-- A misuse in words. -/
def Misuse.message : Misuse → String
  | unexpectedArgument argument => "unexpected argument " ++ quote argument ++ " found"
  | missingValue parameter =>
    "a value is required for '" ++ (Flag.parameter parameter).usage ++ "' but none was supplied"
  | repeated flag => "the argument '" ++ flag.usage ++ "' cannot be used multiple times"
  | invalidValue value parameter =>
    "invalid value " ++ quote value ++ " for '" ++ (Flag.parameter parameter).usage ++ "'"
  | unexpectedValue value switch =>
    "unexpected value " ++ quote value ++ " for '" ++ (Flag.switch switch).usage ++
      "' found; no more were expected"

end EbnfLexer.CommandLine

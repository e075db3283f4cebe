/-!
# Kinds of tokens

A kind has two spellings: a short code, used in listings, and a long name, used
in JSON.  Both determine the kind, and reading either one back accepts nothing
but the exact spelling.
-/

namespace EbnfLexer

/-- What a token is in the grammar text. -/
inductive Kind where
  /-- Gathered text: the name of a rule or the content of a literal. -/
  | identifier
  /-- The sign `=`. -/
  | define
  /-- The sign `,`. -/
  | concat
  /-- The sign `;`. -/
  | terminator
  /-- The sign `|`. -/
  | alternation
  /-- The signs `[` and `]`. -/
  | optional
  /-- The signs `{` and `}`. -/
  | repetition
  /-- The signs `(` and `)`. -/
  | group
  /-- The signs `'` and `"`. -/
  | terminalQuote
  /-- The sign `?`. -/
  | special
  /-- The sign `-`. -/
  | exception
  /-- Any other sign. -/
  | unknown
  deriving DecidableEq, Repr

namespace Kind

/-- Every kind, in the order in which they are listed to a reader. -/
def all : List Kind :=
  [identifier, define, concat, terminator, alternation, optional, repetition, group,
    terminalQuote, special, exception, unknown]

/-- The short code of a kind. -/
def code : Kind → String
  | identifier => "IDEN"
  | define => "DEF"
  | concat => "CONCAT"
  | terminator => "TERM"
  | alternation => "ALTER"
  | optional => "OPT"
  | repetition => "REP"
  | group => "GROUP"
  | terminalQuote => "TERMI"
  | special => "SPEC"
  | exception => "EXCEP"
  | unknown => "UNK"

/-- The long name of a kind. -/
def name : Kind → String
  | identifier => "Identifier"
  | define => "Define"
  | concat => "Concat"
  | terminator => "Terminator"
  | alternation => "Alternation"
  | optional => "Optional"
  | repetition => "Repetition"
  | group => "Group"
  | terminalQuote => "TerminalQuote"
  | special => "Special"
  | exception => "Exception"
  | unknown => "Unknown"

/-- The kind with a given short code. -/
def ofCode? (code : String) : Option Kind :=
  all.find? fun kind => kind.code == code

/-- The kind with a given long name. -/
def ofName? (name : String) : Option Kind :=
  all.find? fun kind => kind.name == name

/-- What is said of a text that is no short code. -/
def noSuchCode : String := "Matching variant not found"

theorem mem_all (kind : Kind) : kind ∈ all := by
  cases kind <;> decide

@[simp] theorem ofCode?_code (kind : Kind) : ofCode? kind.code = some kind := by
  cases kind <;> rfl

@[simp] theorem ofName?_name (kind : Kind) : ofName? kind.name = some kind := by
  cases kind <;> rfl

end Kind

end EbnfLexer

import EbnfLexer.Token

/-!
# Tokens as a listing

A listing has one line for each token.  Numbers stand to the right of columns
that are wide enough for small texts; a number that needs more room takes it.
-/

namespace EbnfLexer

variable {ν : Type} [Counter ν]

/-- A text moved to the right by spaces until it is `width` characters wide. -/
def padLeft (width : Nat) (text : String) : String :=
  String.ofList (List.replicate (width - text.length) ' ') ++ text

/-- A place in words. -/
def Position.describe (position : Position ν) : String :=
  "line: " ++ Counter.digits position.line ++ ", column: " ++ Counter.digits position.column

/-- A token as a line of a listing. -/
def Token.listed (token : Token ν) : String :=
  "ID: " ++ padLeft 4 (Counter.digits token.id) ++
    " Type: " ++ token.kind.code ++
    " Line: " ++ padLeft 2 (Counter.digits token.position.line) ++
    "[" ++ padLeft 2 (Counter.digits token.position.column) ++ "]" ++
    " Symbol: " ++ token.symbol

/-- A listing: every token on a line that is ended by a line feed. -/
def listing (tokens : List (Token ν)) : String :=
  String.join (tokens.map fun token => token.listed ++ "\n")

end EbnfLexer

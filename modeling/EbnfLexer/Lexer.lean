import EbnfLexer.Scan.Line
import EbnfLexer.Token

/-!
# From lines to tokens

A `Lexer` takes the lines of a text one after the other.  It numbers lines and
tokens, both from one, and carries an open literal over a line end.  Feeding
the lines one by one or in groups gives the same tokens (`feedAll_append`).
-/

namespace EbnfLexer

variable {ν : Type} [Counter ν]

/-- What is carried from line to line: the context of the scan, the number of lines taken so
far and the number of the next token. -/
structure Lexer (ν : Type) where
  context : Scan.Context ν
  line : ν
  nextId : ν
  deriving DecidableEq, Repr

namespace Lexer

/-- Before the first line. -/
def start : Lexer ν := ⟨.start, Counter.zero, Counter.one⟩

/-- Where the scan stands. -/
def state (lexer : Lexer ν) : Scan.State ν := lexer.context.state

/-- How many tokens have been numbered. -/
def emitted (lexer : Lexer ν) : ν := Counter.previous lexer.nextId

/-- The token that a lexeme of the present line is under the next number, and the lexer after
it. -/
def emit (lexer : Lexer ν) (lexeme : Scan.Lexeme ν) : Token ν × Lexer ν :=
  (⟨lexer.nextId, lexeme.kind, lexeme.symbol, ⟨lexer.line, lexeme.column⟩⟩,
    { lexer with nextId := Counter.next lexer.nextId })

/-- The tokens of the present line from its lexemes, after those already numbered. -/
def number (numbered : Array (Token ν) × Lexer ν) (lexeme : Scan.Lexeme ν) :
    Array (Token ν) × Lexer ν :=
  let (token, lexer) := numbered.2.emit lexeme
  (numbered.1.push token, lexer)

/-- The tokens of one more line. -/
def feed (lexer : Lexer ν) (line : String) : Array (Token ν) × Lexer ν :=
  let (context, lexemes) := lexer.context.scan line
  lexemes.foldl number (#[], ⟨context, Counter.next lexer.line, lexer.nextId⟩)

/-- The tokens of one more line, after those already found. -/
def extend (found : Array (Token ν) × Lexer ν) (line : String) : Array (Token ν) × Lexer ν :=
  let (tokens, lexer) := found.2.feed line
  (found.1 ++ tokens, lexer)

/-- The tokens of further lines. -/
def feedAll (lexer : Lexer ν) (lines : List String) : Array (Token ν) × Lexer ν :=
  lines.foldl extend (#[], lexer)

/-- Tokens found before do not matter to the lines that follow. -/
private theorem foldl_extend (tokens : Array (Token ν)) (lexer : Lexer ν) (lines : List String) :
    lines.foldl extend (tokens, lexer) =
      (tokens ++ (lexer.feedAll lines).1, (lexer.feedAll lines).2) := by
  unfold feedAll
  induction lines generalizing tokens lexer with
  | nil => simp
  | cons line lines ih =>
    rw [List.foldl_cons, List.foldl_cons, extend, extend, ih, ih (#[] ++ _)]
    simp

@[simp] theorem feedAll_nil (lexer : Lexer ν) : lexer.feedAll [] = (#[], lexer) := rfl

/-- The first line and the others may be fed one after the other. -/
theorem feedAll_cons (lexer : Lexer ν) (line : String) (lines : List String) :
    lexer.feedAll (line :: lines) =
      ((lexer.feed line).1 ++ ((lexer.feed line).2.feedAll lines).1,
        ((lexer.feed line).2.feedAll lines).2) := by
  conv => lhs; unfold feedAll
  rw [List.foldl_cons, extend, foldl_extend]
  simp

/-- Lines may be fed in groups. -/
theorem feedAll_append (lexer : Lexer ν) (lines others : List String) :
    lexer.feedAll (lines ++ others) =
      ((lexer.feedAll lines).1 ++ ((lexer.feedAll lines).2.feedAll others).1,
        ((lexer.feedAll lines).2.feedAll others).2) := by
  conv => lhs; unfold feedAll
  rw [List.foldl_append]
  exact foldl_extend _ _ others

end Lexer

/-- The tokens of a text given by its lines. -/
def tokenize (lines : List String) : List (Token ν) :=
  (Lexer.start.feedAll lines).1.toList

end EbnfLexer

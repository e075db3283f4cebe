import EbnfLexer.Proofs.Run
import EbnfLexer.Proofs.Scan.Cut

/-!
# What tokens say apart from their places

The content of a run are the words of its lines, each with the number of its
line (`contents`).  The tokens of a run have this content, whatever counter
numbers them (`map_content_numbered`), and so what is claimed about kinds and
symbols alone can be shown for words.
-/

namespace EbnfLexer

open Counter Scan TwoPass

variable {ν : Type} [Counter ν]

/-- What a token says apart from its number and its column. -/
def Token.content (token : Token ν) : ν × Kind × String :=
  (token.position.line, token.kind, token.symbol)

/-- The words of lines with the number of their line, the first line having the number
`first`. -/
def contents (quote : Option Char) (first : ℕ) : List String → List (ℕ × Kind × String)
  | [] => []
  | line :: lines =>
      (words quote (stripped line)).map (fun word => (first, word)) ++
        contents (Literal.after quote line.toList) (first + 1) lines

theorem map_word_placed (quote : Option Char) (first : ℕ) (lines : List String) :
    (placed quote first lines : List (ℕ × Lexeme ν)).map (Prod.map id Lexeme.word) =
      contents quote first lines := by
  induction lines generalizing quote first with
  | nil => rfl
  | cons line lines ih =>
      rw [placed_cons, contents, List.map_append, ih, ← map_word_lexemes (ν := ν) quote 1,
        List.map_map, List.map_map]
      rfl

/-- Numbering does not touch the content. -/
theorem map_content_numbered (first : ℕ) (found : List (ℕ × Lexeme ν)) :
    (numbered first found).map Token.content =
      (found.map (Prod.map id Lexeme.word)).map (Prod.map count id) := by
  induction found generalizing first with
  | nil => rfl
  | cons lexeme rest ih =>
      have hnumbered : (numbered first (lexeme :: rest) : List (Token ν)) =
          ⟨count first, lexeme.2.kind, lexeme.2.symbol, ⟨count lexeme.1, lexeme.2.column⟩⟩ ::
            numbered (first + 1) rest := rfl
      rw [hnumbered, List.map_cons, List.map_cons, List.map_cons, ih]
      rfl

theorem map_content_tokenize (lines : List String) :
    (tokenize lines : List (Token ν)).map Token.content =
      (contents none 1 lines).map (Prod.map count id) := by
  rw [tokenize, Lexer.feedAll_start, TwoPass.tokens, map_content_numbered, map_word_placed]

end EbnfLexer

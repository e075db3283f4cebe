import EbnfLexer.Counter
import EbnfLexer.Kind

/-!
# Tokens

A token is a piece of grammar text with its kind, the number under which it was
found and the place where it begins.
-/

namespace EbnfLexer

/-- A place in the text: the first line and the first character of a line have number one. -/
structure Position (ν : Type) where
  line : ν
  column : ν
  deriving DecidableEq, Repr

/-- A numbered piece of the text. -/
structure Token (ν : Type) where
  id : ν
  kind : Kind
  symbol : String
  position : Position ν
  deriving DecidableEq, Repr

end EbnfLexer

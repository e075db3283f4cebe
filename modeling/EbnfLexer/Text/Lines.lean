/-!
# Lines of a text

A line feed ends a line, and a carriage return directly before it belongs to
the line end.  Text after the last line feed is one more line, unless it is
empty; a carriage return at its end is kept.
-/

namespace EbnfLexer.Text

/-- A line whose end was found, without the carriage return that belongs to the end. -/
def dropReturn (line : List Char) : List Char :=
  if line.getLast? = some '\r' then line.dropLast else line

/-- The lines of a text of which `begun` is the beginning of the first, last character first. -/
def linesFrom (begun : List Char) : List Char → List (List Char)
  | [] => if begun.isEmpty then [] else [begun.reverse]
  | c :: rest =>
    if c = '\n' then dropReturn begun.reverse :: linesFrom [] rest
    else linesFrom (c :: begun) rest

/-- The lines of a text. -/
def lines (text : String) : List String :=
  (linesFrom [] text.toList).map String.ofList

end EbnfLexer.Text

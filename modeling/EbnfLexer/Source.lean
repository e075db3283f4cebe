import EbnfLexer.Error
import EbnfLexer.Files.Found
import EbnfLexer.Text.Lines

/-!
# Grammar files

A grammar is a file of text that is taken in line by line.
-/

namespace EbnfLexer

/-- The lines of the grammar file under a path. -/
def readLines (files : Files.Lookup) (path : String) : Except Error (List String) :=
  match Files.readText files path with
  | .ok text => .ok (Text.lines text)
  | .error obstacle => .error (.io path obstacle.message)

end EbnfLexer

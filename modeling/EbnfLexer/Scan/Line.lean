import EbnfLexer.Counter
import EbnfLexer.Scan.State
import EbnfLexer.Text.Blank

/-!
# Scanning one line

A scan goes over the characters of a line once.  It gathers text until a sign or
the end of the line ends it, and yields a lexeme for the gathered text and one
for the sign.  Spaces outside literals are not gathered, and they do not end
text either.

The order in which the lexemes are found is their order in the line, and the
place that goes with a lexeme is the column at which it begins.  A scan may be
stopped after any character and continued from there (`Context.pass_concat`).
-/

namespace EbnfLexer.Scan

variable {ν : Type}

/-- A piece of a line that is a token once it is numbered. -/
structure Lexeme (ν : Type) where
  kind : Kind
  symbol : String
  column : ν
  deriving DecidableEq, Repr

/-- What a scan carries from one character to the next, and from one line to the next:
where it stands and the text gathered there. -/
structure Context (ν : Type) where
  state : State ν
  pending : String
  deriving DecidableEq, Repr

/-- Outside any literal with nothing gathered. -/
def Context.start : Context ν := ⟨.idle, ""⟩

/-- The lexeme for a sign. -/
def Lexeme.ofSign (c : Char) (column : ν) : Lexeme ν :=
  ⟨.ofSign c, String.singleton c, column⟩

/-- The lexeme for gathered text, which loses the white space around it. -/
def Lexeme.ofText (text : String) (column : ν) : Lexeme ν :=
  ⟨.identifier, String.ofList (Text.trim text.toList), column⟩

/-- A scan under way: its context, the number of characters it has passed on this line and
the lexemes found on this line. -/
structure Progress (ν : Type) where
  context : Context ν
  column : ν
  found : Array (Lexeme ν)

/-- The lexeme that a sign at `column` ends, if there is gathered text before the sign. -/
def Context.endedBySign (context : Context ν) (column : ν) : Array (Lexeme ν) :=
  if context.pending.isEmpty then #[]
  else #[.ofText context.pending (context.state.startColumn.getD column)]

/-- One character further. -/
def Progress.step [Counter ν] (progress : Progress ν) (c : Char) : Progress ν :=
  let ⟨context, passed, found⟩ := progress
  let column := Counter.next passed
  if c = ' ' ∧ context.state.isQuoted = false then
    ⟨context, column, found⟩
  else
    let begun : Context ν := ⟨context.state.begin column, context.pending⟩
    match begun.state.afterSign? c with
    | none => ⟨⟨begun.state, begun.pending.push c⟩, column, found⟩
    | some after =>
      ⟨⟨after, ""⟩, column, (found ++ begun.endedBySign column).push (.ofSign c column)⟩

/-- What the end of the line ends.  Text that was begun becomes a lexeme, be it empty. -/
def Progress.finish (progress : Progress ν) : Context ν × Array (Lexeme ν) :=
  let ⟨context, _, found⟩ := progress
  match context.state.startColumn with
  | none => (context, found)
  | some column =>
    (⟨context.state.finish, ""⟩, found.push (.ofText context.pending column))

/-- The characters of a line without one space at its end. -/
def dropSpace (line : List Char) : List Char :=
  if line.getLast? = some ' ' then line.dropLast else line

/-- The scan of some characters at the beginning of a line. -/
def Context.pass [Counter ν] (context : Context ν) (characters : List Char) : Progress ν :=
  characters.foldl Progress.step ⟨context, Counter.zero, #[]⟩

@[simp] theorem Context.pass_nil [Counter ν] (context : Context ν) :
    context.pass [] = ⟨context, Counter.zero, #[]⟩ := rfl

/-- Passing one character more is one step more. -/
theorem Context.pass_concat [Counter ν] (context : Context ν) (characters : List Char)
    (c : Char) : context.pass (characters ++ [c]) = (context.pass characters).step c := by
  unfold Context.pass
  rw [List.foldl_append, List.foldl_cons, List.foldl_nil]

/-- The scan of a whole line: the context after it and its lexemes. -/
def Context.scan [Counter ν] (context : Context ν) (line : String) :
    Context ν × Array (Lexeme ν) :=
  (context.pass (dropSpace line.toList)).finish

end EbnfLexer.Scan

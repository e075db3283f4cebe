/-!
# Text without control sequences

A terminal does not show every character that is sent to it.  The escape
character begins a sequence that the terminal obeys instead, and other control
characters are obeyed one by one.  A text for a terminal may quote what somebody
else wrote; without its sequences and control characters, such a quotation is
shown and nothing more.

The characters that remain are the printing ones and the four blank controls:
tab, line feed, form feed and carriage return.  A terminal knows from the
characters before which of them belong to a sequence, so the text is read in
*stages*.  A blank control inside a sequence of the simple sorts is carried out
at once, and the characters that follow it directly are taken for text as well.
-/

namespace EbnfLexer.Text

/-- Where a character stands in relation to control sequences. -/
inductive Stage where
  /-- Outside of all sequences. -/
  | ground
  /-- After the escape character. -/
  | escape
  /-- After the escape character and intermediate characters. -/
  | escapeIntermediate
  /-- In a sequence that began with `[`. -/
  | control
  /-- At the beginning of a device string, which began with `P`. -/
  | deviceEntry
  /-- In the parameters of a device string. -/
  | deviceParameters
  /-- In the intermediate characters of a device string. -/
  | deviceIntermediate
  /-- In a string, which lasts until a terminator. -/
  | string
  /-- In a command to the operating system, which began with `]`. -/
  | systemCommand
  deriving DecidableEq, Repr

/-- Whether a character is one of the four blank controls. -/
def isBlankControl (c : Char) : Bool := c == '\t' || c == '\n' || c == '\x0c' || c == '\r'

/-- Whether a character is kept where it stands outside of all sequences. -/
def isShown (c : Char) : Bool := isBlankControl c || (' ' ≤ c && c ≠ '\x7f')

/-- Whether a character may stand between the beginning and the end of a sequence. -/
def isIntermediate (c : Char) : Bool := ' ' ≤ c && c ≤ '/'

/-- Whether a character may stand for a parameter of a sequence. -/
def isParameter (c : Char) : Bool := '0' ≤ c && c ≤ '?'

/-- Whether a character may end a sequence. -/
def isFinal (c : Char) : Bool := '@' ≤ c && c ≤ '~'

/-- Whether the byte `0x9C`, which terminates a string, is among the bytes of a character. -/
def holdsTerminator (c : Char) : Bool := (String.utf8EncodeChar c).contains 0x9C

namespace Stage

/-- Whether a character in a stage begins text. -/
def shows (stage : Stage) (c : Char) : Bool :=
  match stage with
  | ground => isShown c
  | escape | escapeIntermediate | control => isBlankControl c
  | _ => false

/-- The stage that the character after the escape character leads to. -/
def afterEscape (c : Char) : Stage :=
  if isIntermediate c then escapeIntermediate
  else if c = '[' then control
  else if c = ']' then systemCommand
  else if c = 'P' then deviceEntry
  else if c = 'X' ∨ c = '^' ∨ c = '_' then string
  else if isParameter c ∨ isFinal c then ground
  else escape

/-- The stage that a character which is not kept leads to. -/
def advance (stage : Stage) (c : Char) : Stage :=
  if c = '\x18' ∨ c = '\x1a' then ground
  else if c = '\x1b' then escape
  else
    match stage with
    | ground => ground
    | escape => afterEscape c
    | escapeIntermediate => if isParameter c ∨ isFinal c then ground else escapeIntermediate
    | control => if isFinal c then ground else control
    | deviceEntry =>
      if isIntermediate c then deviceIntermediate
      else if isParameter c then deviceParameters
      else if isFinal c then string
      else deviceEntry
    | deviceParameters =>
      if isIntermediate c then deviceIntermediate
      else if ('<' ≤ c ∧ c ≤ '?') ∨ isFinal c then string
      else deviceParameters
    | deviceIntermediate => if isParameter c ∨ isFinal c then string else deviceIntermediate
    | string => if holdsTerminator c then ground else string
    | systemCommand => if c = '\x07' then ground else systemCommand

end Stage

/-- The characters that remain of a text from a stage on.  In `running` text a character is kept
whenever it can be shown; one outside of ASCII ends every sequence there. -/
def withoutSequences (stage : Stage) (running : Bool) : List Char → List Char
  | [] => []
  | c :: rest =>
    if running && isShown c || stage.shows c then
      c :: withoutSequences (if c ≤ '\x7f' then stage else .ground) true rest
    else withoutSequences (stage.advance c) false rest

/-- A text without control sequences and control characters. -/
def plain (text : String) : String := String.ofList (withoutSequences .ground false text.toList)

end EbnfLexer.Text

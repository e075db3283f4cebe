/-!
# Writing JSON

A value is written on one line without any blanks, or with each part on a line of
its own, two spaces further in than the brackets around it.  Brackets without
parts stay together in either layout.  In strings only what must be escaped is:
the quotation mark, the backslash and the control characters.
-/

namespace EbnfLexer.Json

/-- How the parts of a value are set out. -/
inductive Layout where
  /-- All on one line, without blanks. -/
  | compact
  /-- Each part on a line of its own. -/
  | indented
  deriving DecidableEq, Repr

namespace Layout

/-- What stands before a part at some depth, and before a closing bracket one level further out. -/
def lineBreak (layout : Layout) (depth : Nat) : List Char :=
  match layout with
  | compact => []
  | indented => '\n' :: List.replicate (2 * depth) ' '

/-- What stands between a key and its value. -/
def colon (layout : Layout) : List Char :=
  match layout with
  | compact => [':']
  | indented => [':', ' ']

/-- Written parts between the brackets of a value at some depth. -/
def enclose (layout : Layout) (depth : Nat) (opening closing : Char)
    (parts : List (List Char)) : List Char :=
  match parts with
  | [] => [opening, closing]
  | parts =>
    [opening] ++ layout.lineBreak (depth + 1) ++
      List.intercalate (',' :: layout.lineBreak (depth + 1)) parts ++
      layout.lineBreak depth ++ [closing]

end Layout

/-- The digit with a given value, in lower case. -/
def hexDigit (value : Nat) : Char := (Nat.digitChar value)

/-- A character as it is written in a string. -/
def escaped (c : Char) : List Char :=
  match c with
  | '"' => ['\\', '"']
  | '\\' => ['\\', '\\']
  | '\x08' => ['\\', 'b']
  | '\x0c' => ['\\', 'f']
  | '\n' => ['\\', 'n']
  | '\r' => ['\\', 'r']
  | '\t' => ['\\', 't']
  | _ =>
    if c.toNat < 0x20 then
      ['\\', 'u', '0', '0', hexDigit (c.toNat / 16), hexDigit (c.toNat % 16)]
    else [c]

/-- A string with its quotation marks. -/
def writeString (text : String) : List Char :=
  ['"'] ++ text.toList.flatMap escaped ++ ['"']

/-- A whole number in decimal digits. -/
def writeNatural (value : Nat) : List Char := Nat.toDigits 10 value

/-- A truth value. -/
def writeBool (value : Bool) : List Char :=
  if value then ['t', 'r', 'u', 'e'] else ['f', 'a', 'l', 's', 'e']

namespace Layout

/-- A list of written values. -/
def list (layout : Layout) (depth : Nat) (elements : List (List Char)) : List Char :=
  layout.enclose depth '[' ']' elements

/-- An object of written values, under keys. -/
def object (layout : Layout) (depth : Nat) (entries : List (String × List Char)) : List Char :=
  layout.enclose depth '{' '}'
    (entries.map fun (key, value) => writeString key ++ layout.colon ++ value)

end Layout

end EbnfLexer.Json

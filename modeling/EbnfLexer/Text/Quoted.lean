import EbnfLexer.Text.DefaultIgnorable
import EbnfLexer.Text.GraphemeExtend

/-!
# Text quoted for a reader of messages

A quoted text can be read whatever it holds.  Control characters with a short
escape have it, a quotation mark or backslash is escaped by a backslash, and a
character that would not be seen is written as its code point in braces.
-/

namespace EbnfLexer.Text

/-- A number in lower-case hexadecimal digits. -/
def hexDigits (n : Nat) : String := String.ofList (Nat.toDigits 16 n)

/-- Whether a character is a halfwidth Katakana sound mark.  These two extend the character before
them, and still they take a place of their own beside it. -/
def isSoundMark (c : Char) : Bool := c == '\uff9e' || c == '\uff9f'

/-- Whether a character can be seen on its own. -/
def isVisible (c : Char) : Bool :=
  isPrintable c && !isDefaultIgnorable c && (!extendsGrapheme c || isSoundMark c)

/-- A character as it stands in a quoted text. -/
def quotedCharacter (c : Char) : String :=
  match c with
  | '\x00' => "\\0"
  | '\t' => "\\t"
  | '\n' => "\\n"
  | '\r' => "\\r"
  | '"' => "\\\""
  | '\\' => "\\\\"
  | _ =>
    if isVisible c then String.singleton c
    else "\\u\x7b" ++ hexDigits c.toNat ++ "\x7d"

/-- A text in quotation marks. -/
def quoted (text : String) : String :=
  "\"" ++ String.join (text.toList.map quotedCharacter) ++ "\""

end EbnfLexer.Text

import EbnfLexer.Decimal.FloatText
import EbnfLexer.Text.Quoted

/-!
# Why a JSON text cannot be read

A failure has a cause and a place.  While a text is read only its remaining part
is at hand, so a place is kept as the number of bytes that remain after it; the
line and the column are found from the whole text once the failure is reported.
Lines and columns count bytes of UTF-8.

There are two ways to place a failure.  It lies *at* a remaining text when all
before it was taken in, and *in* a remaining text when the first byte of it is
to blame.
-/

namespace EbnfLexer.Json

/-- What stood in the text where something else was expected. -/
inductive Found where
  | null
  | boolean (value : Bool)
  | integer (value : Int)
  /-- A binary64 number by its bits. -/
  | float (bits : UInt64)
  | string (text : String)
  | sequence
  | map
  deriving DecidableEq, Repr

/-- Why a text cannot be read. -/
inductive Cause where
  | endOfValue
  | endOfList
  | endOfObject
  | endOfString
  | expectedIdent
  | expectedValue
  | expectedColon
  | expectedListSeparator
  | expectedObjectSeparator
  | keyNotString
  | trailingComma
  | trailingCharacters
  | invalidNumber
  | numberOutOfRange
  | controlCharacter
  | invalidEscape
  | unfinishedSurrogatePair
  | loneSurrogate
  | invalidType (found : Found) (expected : String)
  | invalidValue (found : Found) (expected : String)
  | invalidLength (length : Nat) (expected : String)
  | unknownVariant (name : String) (expected : List String)
  | missingField (name : String)
  | duplicateField (name : String)
  deriving DecidableEq, Repr

/-- A name in messages. -/
def ticked (name : String) : String := "`" ++ name ++ "`"

/-- What stood in the text, in words. -/
def Found.describe : Found → String
  | null => "null"
  | boolean value => "boolean " ++ ticked (if value then "true" else "false")
  | integer value => "integer " ++ ticked (toString value)
  | float bits => "floating point " ++ ticked (Decimal.floatText bits)
  | string text => "string " ++ Text.quoted text
  | sequence => "sequence"
  | map => "map"

/-- The names that were possible, in words. -/
def describeChoices (names : List String) : String :=
  match names with
  | [first, second] => ticked first ++ " or " ++ ticked second
  | _ => "one of " ++ String.intercalate ", " (names.map ticked)

/-- A cause in words. -/
def Cause.message : Cause → String
  | endOfValue => "EOF while parsing a value"
  | endOfList => "EOF while parsing a list"
  | endOfObject => "EOF while parsing an object"
  | endOfString => "EOF while parsing a string"
  | expectedIdent => "expected ident"
  | expectedValue => "expected value"
  | expectedColon => "expected `:`"
  | expectedListSeparator => "expected `,` or `]`"
  | expectedObjectSeparator => "expected `,` or `\x7d`"
  | keyNotString => "key must be a string"
  | trailingComma => "trailing comma"
  | trailingCharacters => "trailing characters"
  | invalidNumber => "invalid number"
  | numberOutOfRange => "number out of range"
  | controlCharacter => "control character (\\u0000-\\u001F) found while parsing a string"
  | invalidEscape => "invalid escape"
  | unfinishedSurrogatePair => "unexpected end of hex escape"
  | loneSurrogate => "lone leading surrogate in hex escape"
  | invalidType found expected => "invalid type: " ++ found.describe ++ ", expected " ++ expected
  | invalidValue found expected => "invalid value: " ++ found.describe ++ ", expected " ++ expected
  | invalidLength length expected =>
    "invalid length " ++ toString length ++ ", expected " ++ expected
  | unknownVariant name expected =>
    "unknown variant " ++ ticked name ++ ", expected " ++ describeChoices expected
  | missingField name => "missing field " ++ ticked name
  | duplicateField name => "duplicate field " ++ ticked name

/-- A cause and its place: `left` bytes remain after it. -/
structure Failure where
  cause : Cause
  left : Nat
  deriving DecidableEq, Repr

/-- The number of bytes of a text in UTF-8. -/
def byteCount : List Char → Nat
  | [] => 0
  | c :: rest => c.utf8Size + byteCount rest

/-- A failure after everything before `text` was taken in. -/
def Cause.at (cause : Cause) (text : List Char) : Failure := ⟨cause, byteCount text⟩

/-- A failure for which the first byte of `text` is to blame.  At the end of the text there is no
such byte, and the end itself is the place. -/
def Cause.within (cause : Cause) (text : List Char) : Failure := ⟨cause, byteCount text - 1⟩

/-- A place in a text by lines, from one, and bytes of a line. -/
structure Place where
  line : Nat
  column : Nat
  deriving DecidableEq, Repr

namespace Place

/-- The place `count` bytes further in a text that goes on at a given place. -/
def advance (place : Place) (count : Nat) : List Char → Place
  | [] => place
  | c :: rest =>
    if count = 0 then place
    else if c = '\n' then advance ⟨place.line + 1, 0⟩ (count - 1) rest
    else if count ≤ c.utf8Size then ⟨place.line, place.column + count⟩
    else advance ⟨place.line, place.column + c.utf8Size⟩ (count - c.utf8Size) rest

/-- The place after `count` bytes of a text. -/
def after (text : List Char) (count : Nat) : Place := advance ⟨1, 0⟩ count text

/-- A place in words. -/
def describe (place : Place) : String :=
  "line " ++ toString place.line ++ " column " ++ toString place.column

end Place

/-- A failure to read `text`, in words. -/
def Failure.message (failure : Failure) (text : List Char) : String :=
  failure.cause.message ++ " at " ++
    (Place.after text (byteCount text - failure.left)).describe

end EbnfLexer.Json

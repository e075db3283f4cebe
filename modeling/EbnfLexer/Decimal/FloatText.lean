import EbnfLexer.Decimal.Shortest

/-!
# Floating-point numbers as text

The digits of a number are its shortest decimal.  Numbers from `0.00001` up to
`10 ^ 16` are written with a decimal point and at least one digit after it;
smaller and larger ones have one digit before the point and a signed exponent.
-/

namespace EbnfLexer.Decimal

/-- The digits of a number with a decimal point after `places` of them.  Zeros fill the room
between the digits and the point, and at least one digit stands on either side. -/
def positional (digits : List Char) (places : Int) : List Char :=
  if places ≤ 0 then
    ['0', '.'] ++ List.replicate (-places).toNat '0' ++ digits
  else if digits.length ≤ places.toNat then
    digits ++ List.replicate (places.toNat - digits.length) '0' ++ ['.', '0']
  else
    digits.take places.toNat ++ ['.'] ++ digits.drop places.toNat

/-- One digit, the others after a point, and the exponent with its sign. -/
def exponential (digits : List Char) (exponent : Int) : List Char :=
  let fraction := match digits.drop 1 with
    | [] => []
    | others => '.' :: others
  let sign := if exponent < 0 then '-' else '+'
  digits.take 1 ++ fraction ++ ['e', sign] ++ (toString exponent.natAbs).toList

/-- A positive number as text. -/
def Scientific.text (decimal : Scientific) : List Char :=
  let digits := (toString decimal.digits).toList
  let exponent := decimal.exponent + digits.length - 1
  if -5 ≤ exponent ∧ exponent ≤ 15 then positional digits (exponent + 1)
  else exponential digits exponent

/-- The finite binary64 number with the given bits as text. -/
def floatText (bits : UInt64) : String :=
  let sign := if bits >>> 63 = 1 then ['-'] else []
  let biased := (bits >>> 52 &&& 0x7FF).toNat
  let fraction := (bits &&& 0xFFFFFFFFFFFFF).toNat
  let magnitude :=
    if biased = 0 ∧ fraction = 0 then ['0', '.', '0'] else (shortest biased fraction).text
  String.ofList (sign ++ magnitude)

end EbnfLexer.Decimal

/-!
# The shortest decimal of a binary number

A binary64 number `m * 2 ^ q` is the nearest one to every real number in a small
interval around it.  Among the decimals in that interval, those with the fewest
digits are the shortest; of two such decimals the nearer one is taken.

On the grid of decimals with a given number of digits, a point of the interval
exists only if one of the two neighbours of the number is in the interval, so
only these are tried, in exact arithmetic, with one digit, two digits and so on.
Seventeen digits are always enough.
-/

namespace EbnfLexer.Decimal

/-- The decimal `digits * 10 ^ exponent`. -/
structure Scientific where
  digits : Nat
  exponent : Int
  deriving DecidableEq, Repr

/-- The interval of the reals that are nearest to a positive binary64 number, as fractions over
one denominator: the number itself, the ends, and whether the ends belong to it. -/
structure Neighbourhood where
  value : Nat
  low : Nat
  high : Nat
  denominator : Nat
  closed : Bool

/-- The leading bit that the fraction of a number leaves out, unless the biased exponent is zero. -/
def hiddenBit : Nat := 1 <<< 52

/-- The neighbourhood of the positive number whose biased exponent and fraction are given.
Below a power of two the numbers are twice as dense, so the lower end is nearer. -/
def neighbourhood (biased fraction : Nat) : Neighbourhood :=
  let m := if biased = 0 then fraction else fraction + hiddenBit
  let q : Int := (if biased = 0 then 1 else (biased : Int)) - 1075
  let below := if fraction = 0 ∧ biased > 1 then 1 else 2
  let up := (q - 2).toNat
  { value := (4 * m) <<< up
    low := (4 * m - below) <<< up
    high := (4 * m + 2) <<< up
    denominator := 1 <<< (2 - q).toNat
    closed := m % 2 = 0 }

namespace Neighbourhood

/-- The neighbourhood in units of `10 ^ exponent`. -/
def inUnits (around : Neighbourhood) (exponent : Int) : Neighbourhood :=
  let up := Nat.pow 10 (-exponent).toNat
  { around with
    value := around.value * up
    low := around.low * up
    high := around.high * up
    denominator := around.denominator * Nat.pow 10 exponent.toNat }

/-- Whether a whole number of units lies in the neighbourhood. -/
def holds (around : Neighbourhood) (units : Nat) : Bool :=
  let n := units * around.denominator
  if around.closed then around.low ≤ n && n ≤ around.high else around.low < n && n < around.high

/-- The whole number of units in the neighbourhood that is nearest to the number; of two that are
equally near, the even one. -/
def nearest? (around : Neighbourhood) : Option Nat :=
  let down := around.value / around.denominator
  let up := down + 1
  match around.holds down, around.holds up with
  | true, true =>
    let twice := 2 * (around.value % around.denominator)
    if twice < around.denominator then some down
    else if twice > around.denominator then some up
    else some (if down % 2 = 0 then down else up)
  | true, false => some down
  | false, true => some up
  | false, false => none

/-- The exponent of the power of ten at or next below the number. -/
def magnitude (around : Neighbourhood) : Int :=
  let whole := around.value / around.denominator
  if whole > 0 then (toString whole).length - 1
  else
    let places := (toString (around.denominator / around.value)).length
    if around.value * Nat.pow 10 (places - 1) ≥ around.denominator then -((places : Int) - 1)
    else -(places : Int)

/-- The shortest decimal with at least `17 - budget` digits. -/
def shortestFrom (around : Neighbourhood) : (budget : Nat) → Scientific
  | 0 => ⟨around.value / around.denominator, 0⟩
  | budget + 1 =>
    let exponent := around.magnitude - (16 - (budget : Int))
    match (around.inUnits exponent).nearest? with
    | some digits => ⟨digits, exponent⟩
    | none => shortestFrom around budget

end Neighbourhood

/-- A decimal without zeros at the end of its digits. -/
def Scientific.normal (decimal : Scientific) : Scientific :=
  if h : decimal.digits ≠ 0 ∧ decimal.digits % 10 = 0 then
    Scientific.normal ⟨decimal.digits / 10, decimal.exponent + 1⟩
  else decimal
termination_by decimal.digits
decreasing_by omega

/-- The shortest decimal of the positive binary64 number with the given biased exponent and
fraction. -/
def shortest (biased fraction : Nat) : Scientific :=
  ((neighbourhood biased fraction).shortestFrom 17).normal

end EbnfLexer.Decimal

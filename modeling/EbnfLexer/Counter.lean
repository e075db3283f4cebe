/-!
# Numbers that count

Token numbers, lines and columns only ever start at zero and go up by one.  A
`Counter` is a type that can do this.  The natural numbers count without end;
`UInt64` counts modulo `2 ^ 64`.  Everything that numbers tokens is written
over an arbitrary counter, so that the machine words of a run and the natural
numbers of a proof go through the same definitions.
-/

namespace EbnfLexer

/-- A type whose values count upwards from zero, one at a time. -/
class Counter (ν : Type) where
  /-- The count before anything has been counted. -/
  zero : ν
  /-- The count after one more. -/
  next : ν → ν
  /-- The count before the last one. -/
  previous : ν → ν
  /-- The number that is written for a count. -/
  toNat : ν → Nat

/-- Counting without end. -/
instance : Counter Nat where
  zero := 0
  next count := count + 1
  previous count := count - 1
  toNat count := count

/-- Counting in 64-bit words, which return to zero after `2 ^ 64 - 1`. -/
instance : Counter UInt64 where
  zero := 0
  next count := count + 1
  previous count := count - 1
  toNat count := count.toNat

namespace Counter

variable {ν : Type} [Counter ν]

/-- The number of the first thing counted. -/
def one : ν := next zero

/-- The count as decimal digits. -/
def digits (count : ν) : String := toString (toNat count)

end Counter

end EbnfLexer

import EbnfLexer.Counter
import Mathlib.Data.Nat.Notation

/-!
# Counts in a counter

The theory speaks of lines, columns and token numbers as natural numbers.
`count n` is what a counter shows after `n` things: the number itself over `ℕ`
(`count_nat`), and its residue modulo `2 ^ 64` in machine words
(`count_uint64`).

`Faithful` says up to which number the two are the same.

A shift of numbers needs a sum as well.  `LawfulAdd` says that adding a count is
counting on by as many, in any order, and that `previous` takes back `next`.
Both counters of the project satisfy it, the words included, because neither
side of the equations minds an overflow.
-/

namespace EbnfLexer.Counter

section Count

variable {ν : Type} [Counter ν]

/-- What a counter shows after `n` things. -/
def count : ℕ → ν
  | 0 => zero
  | n + 1 => next (count n)

theorem next_count (n : ℕ) : next (count n : ν) = count (n + 1) := rfl

end Count

@[simp] theorem count_nat (n : ℕ) : (count n : ℕ) = n := by
  induction n with
  | zero => rfl
  | succ n ih => exact congrArg (· + 1) ih

theorem count_uint64 (n : ℕ) : (count n : UInt64) = UInt64.ofNat n := by
  induction n with
  | zero => rfl
  | succ n ih =>
      have hnext : (count (n + 1) : UInt64) = count n + 1 := rfl
      rw [hnext, ih, UInt64.ofNat_add]
      rfl

/-- A counter that shows every number up to `bound` as it is. -/
def Faithful (ν : Type) [Counter ν] (bound : ℕ) : Prop :=
  ∀ n ≤ bound, toNat (count n : ν) = n

theorem faithful_nat (bound : ℕ) : Faithful ℕ bound := by
  intro n _
  exact count_nat n

theorem faithful_uint64 {bound : ℕ} (h : bound < UInt64.size) : Faithful UInt64 bound := by
  intro n hn
  rw [count_uint64]
  exact UInt64.toNat_ofNat_of_lt' (Nat.lt_of_le_of_lt hn h)

theorem Faithful.mono {ν : Type} [Counter ν] {bound smaller : ℕ} (h : Faithful ν bound)
    (hle : smaller ≤ bound) : Faithful ν smaller := by
  intro n hn
  exact h n (Nat.le_trans hn hle)

/-- Numbers that a counter shows as they are look different. -/
theorem Faithful.count_ne {ν : Type} [Counter ν] {bound m n : ℕ} (h : Faithful ν bound)
    (hm : m ≤ bound) (hn : n ≤ bound) (hne : m ≠ n) : (count m : ν) ≠ count n := by
  intro hsame
  exact hne (by rw [← h m hm, ← h n hn, hsame])

/-- A counter with a sum: adding a count is counting on by as many. -/
class LawfulAdd (ν : Type) [Counter ν] [Add ν] : Prop where
  add_zero (a : ν) : a + zero = a
  add_next (a b : ν) : a + next b = next (a + b)
  add_comm (a b : ν) : a + b = b + a
  add_assoc (a b c : ν) : a + b + c = a + (b + c)
  previous_next (a : ν) : previous (next a) = a

instance : LawfulAdd ℕ where
  add_zero _ := rfl
  add_next _ _ := rfl
  add_comm := Nat.add_comm
  add_assoc := Nat.add_assoc
  previous_next _ := rfl

instance : LawfulAdd UInt64 where
  add_zero := UInt64.add_zero
  add_next a b := (UInt64.add_assoc a b 1).symm
  add_comm := UInt64.add_comm
  add_assoc := UInt64.add_assoc
  previous_next a := UInt64.add_sub_cancel a 1

theorem count_add {ν : Type} [Counter ν] [Add ν] [LawfulAdd ν] (m n : ℕ) :
    (count (m + n) : ν) = count m + count n := by
  induction n with
  | zero => exact (LawfulAdd.add_zero _).symm
  | succ n ih =>
      rw [← Nat.add_assoc, ← next_count, ih, ← next_count n, LawfulAdd.add_next]

end EbnfLexer.Counter

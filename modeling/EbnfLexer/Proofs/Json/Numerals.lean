import EbnfLexer.Json.Layout
import EbnfLexer.Json.Number
import Mathlib.Data.Nat.Notation

/-!
# The ways to write a number

A number is written with an optional sign, the digits before the decimal point, and
optionally a fraction and an exponent (`Grammar.Number`).  Its end is not visible in
itself: it goes on for as long as the text does that is behind it.  What is asked of
this text is that it does not begin with a character that a number could go on with
(`Ends`), and then a number is taken in as it stands (`readNumeral_written`).

A natural number written in decimal digits is one of these, and no digit is lost when
it is read, as long as the whole number fits (`gather_eq`).
-/

namespace EbnfLexer.Json

/-! ## Where a number ends -/

/-- Whether a character behind a number would belong to it. -/
def extendsNumber (c : Char) : Bool := c.isDigit || c == '.' || c == 'e' || c == 'E'

/-- A text that does not go on a number before it. -/
def Ends (rest : List Char) : Prop := ∀ c ∈ rest.head?, extendsNumber c = false

theorem Ends.cons {c : Char} (h : extendsNumber c = false) (rest : List Char) :
    Ends (c :: rest) := by
  intro other hother
  obtain rfl : c = other := by simpa using hother
  exact h

/-- A text that does not go on the digits before it. -/
def EndsDigits (rest : List Char) : Prop := ∀ c ∈ rest.head?, c.isDigit = false

theorem EndsDigits.cons {c : Char} (h : c.isDigit = false) (rest : List Char) :
    EndsDigits (c :: rest) := by
  intro other hother
  obtain rfl : c = other := by simpa using hother
  exact h

theorem Ends.endsDigits {rest : List Char} (h : Ends rest) : EndsDigits rest := by
  intro c hc
  have hextends := h c hc
  simp only [extendsNumber, Bool.or_eq_false_iff] at hextends
  exact hextends.1.1.1

/-! ## The grammar of numbers -/

namespace Grammar

/-- One digit or more. -/
structure Digits (text : List Char) : Prop where
  ne_nil : text ≠ []
  isDigit : ∀ c ∈ text, c.isDigit

/-- The digits before the decimal point, where a zero in front stands alone. -/
inductive Whole : List Char → Prop where
  | zero : Whole ['0']
  | digits {first : Char} {rest : List Char} (hne : first ≠ '0')
      (h : ∀ c ∈ first :: rest, c.isDigit) : Whole (first :: rest)

/-- A decimal point and the digits behind it, if there are any. -/
inductive Fraction : List Char → Prop where
  | none : Fraction []
  | some {digits : List Char} (h : Digits digits) : Fraction ('.' :: digits)

/-- An exponent, if there is one. -/
inductive Exponent : List Char → Prop where
  | none : Exponent []
  | some {letter : Char} {sign digits : List Char} (hletter : letter = 'e' ∨ letter = 'E')
      (hsign : sign = [] ∨ sign = ['+'] ∨ sign = ['-']) (h : Digits digits) :
      Exponent (letter :: (sign ++ digits))

/-- A number. -/
inductive Number : List Char → Prop where
  | mk {minus whole fraction exponent : List Char} (hminus : minus = [] ∨ minus = ['-'])
      (hwhole : Whole whole) (hfraction : Fraction fraction) (hexponent : Exponent exponent) :
      Number (minus ++ (whole ++ (fraction ++ exponent)))

theorem Whole.eq_cons {whole : List Char} (h : Whole whole) :
    ∃ first rest, whole = first :: rest ∧ first.isDigit := by
  cases h with
  | zero => exact ⟨'0', [], rfl, rfl⟩
  | @digits first rest _ h => exact ⟨first, rest, rfl, h first (List.mem_cons_self ..)⟩

/-- A number begins with its sign or with a digit. -/
theorem Number.eq_cons {text : List Char} (h : Number text) :
    ∃ first rest, text = first :: rest ∧ (first = '-' ∨ first.isDigit) := by
  obtain ⟨hminus, hwhole, _, _⟩ := h
  obtain ⟨first, rest, rfl, hfirst⟩ := hwhole.eq_cons
  rcases hminus with rfl | rfl
  · exact ⟨first, _, rfl, Or.inr hfirst⟩
  · exact ⟨'-', _, rfl, Or.inl rfl⟩

end Grammar

open Grammar

/-! ## Reading -/

theorem readDigits_append {digits rest : List Char} (hdigits : ∀ c ∈ digits, c.isDigit)
    (hrest : EndsDigits rest) : readDigits (digits ++ rest) = (digits, rest) := by
  have hstop : rest.takeWhile Char.isDigit = [] ∧ rest.dropWhile Char.isDigit = rest := by
    cases rest with
    | nil => exact ⟨rfl, rfl⟩
    | cons c rest =>
        have hc : c.isDigit = false := hrest c rfl
        exact ⟨List.takeWhile_cons_of_neg (by simp [hc]), List.dropWhile_cons_of_neg (by simp [hc])⟩
  rw [readDigits, List.takeWhile_append_of_pos hdigits, List.dropWhile_append_of_pos hdigits,
    hstop.1, hstop.2, List.append_nil]

/-- The digits before the decimal point are taken in together. -/
theorem readWhole_written {whole rest : List Char} (h : Whole whole) (truncated : Cause)
    (hrest : EndsDigits rest) : readWhole truncated (whole ++ rest) = .ok (whole, rest) := by
  cases h with
  | zero =>
      cases rest with
      | nil => rfl
      | cons c rest =>
          have hc : c.isDigit = false := hrest c rfl
          simp [readWhole, hc]
  | @digits first others hne h =>
      have hdigits := readDigits_append h hrest
      rw [List.cons_append] at hdigits ⊢
      unfold readWhole
      split
      · next heq => contradiction
      · next heq =>
        cases heq
        exact absurd rfl hne
      · next heq =>
        cases heq
        rw [if_pos (h first (List.mem_cons_self ..)), hdigits]

/-- What ends a number has neither a fraction nor an exponent. -/
theorem readFraction_of_ends {rest : List Char} (h : '.' ∉ rest.head?) (truncated : Cause) :
    readFraction truncated rest = .ok (none, rest) := by
  unfold readFraction
  split
  · exact absurd rfl h
  · rfl

theorem readFraction_written {fraction rest : List Char} (h : Fraction fraction)
    (truncated : Cause) (hpoint : '.' ∉ rest.head?) (hrest : EndsDigits rest) :
    ∃ digits, readFraction truncated (fraction ++ rest) = .ok (digits, rest) := by
  cases h with
  | none => exact ⟨none, readFraction_of_ends hpoint truncated⟩
  | @some digits h =>
      refine ⟨some digits, ?_⟩
      rw [List.cons_append, readFraction, readDigits_append h.isDigit hrest]
      cases digits with
      | nil => exact absurd rfl h.ne_nil
      | cons digit digits => rfl

theorem readExponent_of_ends {rest : List Char} (h : Ends rest) (truncated : Cause) :
    readExponent truncated rest = .ok (none, rest) := by
  cases rest with
  | nil => rfl
  | cons c rest =>
      have hc : ¬(c = 'e' ∨ c = 'E') := by
        rintro (rfl | rfl)
        · exact absurd (h 'e' rfl) (by decide)
        · exact absurd (h 'E' rfl) (by decide)
      rw [readExponent, if_neg hc]

/-- A sign is taken off the digits behind it. -/
theorem readSign_written {sign digits : List Char}
    (hsign : sign = [] ∨ sign = ['+'] ∨ sign = ['-']) (h : Digits digits) (rest : List Char) :
    ∃ negative, readSign (sign ++ (digits ++ rest)) = (negative, digits ++ rest) := by
  rcases hsign with rfl | rfl | rfl
  · -- Without a sign, no digit is taken for one.
    refine ⟨false, ?_⟩
    rw [List.nil_append]
    unfold readSign
    cases digits with
    | nil => exact absurd rfl h.ne_nil
    | cons digit digits =>
        have hdigit : digit.isDigit := h.isDigit digit (List.mem_cons_self ..)
        split
        · next heq => cases heq; contradiction
        · next heq => cases heq; contradiction
        · rfl
  · exact ⟨false, rfl⟩
  · exact ⟨true, rfl⟩

theorem readExponent_written {exponent rest : List Char} (h : Exponent exponent)
    (truncated : Cause) (hrest : Ends rest) :
    ∃ read, readExponent truncated (exponent ++ rest) = .ok (read, rest) := by
  cases h with
  | none => exact ⟨none, readExponent_of_ends hrest truncated⟩
  | @some letter sign digits hletter hsign h =>
      obtain ⟨negative, hread⟩ := readSign_written hsign h rest
      have hdigits := readDigits_append h.isDigit hrest.endsDigits
      refine ⟨some (negative, digits), ?_⟩
      rw [List.cons_append, List.append_assoc, readExponent, if_pos hletter, hread]
      cases digits with
      | nil => exact absurd rfl h.ne_nil
      | cons digit digits =>
          have hdigit : digit.isDigit := h.isDigit digit (List.mem_cons_self ..)
          rw [List.cons_append] at hdigits ⊢
          simp only [hdigit, if_pos, hdigits]

theorem readMinus_of_isDigit {first : Char} (h : first.isDigit) (rest : List Char) :
    readMinus (first :: rest) = (false, first :: rest) := by
  unfold readMinus
  split
  · next heq => cases heq; contradiction
  · rfl

/-- The sign is taken off the digits behind it. -/
theorem readMinus_written {minus whole : List Char} (hminus : minus = [] ∨ minus = ['-'])
    (h : Whole whole) (rest : List Char) :
    ∃ negative, readMinus (minus ++ (whole ++ rest)) = (negative, whole ++ rest) := by
  rcases hminus with rfl | rfl
  · obtain ⟨first, others, rfl, hfirst⟩ := h.eq_cons
    exact ⟨false, readMinus_of_isDigit hfirst _⟩
  · exact ⟨true, rfl⟩

/-- A number is taken in as it stands. -/
theorem readNumeral_written {text rest : List Char} (h : Grammar.Number text) (truncated : Cause)
    (hrest : Ends rest) :
    ∃ numeral, readNumeral truncated (text ++ rest) = .ok (numeral, rest) := by
  obtain @⟨minus, whole, fraction, exponent, hminus, hwhole, hfraction, hexponent⟩ := h
  have hpoint : '.' ∉ (exponent ++ rest).head? ∧ EndsDigits (exponent ++ rest) := by
    cases hexponent with
    | none =>
        refine ⟨?_, hrest.endsDigits⟩
        intro hmem
        exact absurd (hrest '.' hmem) (by decide)
    | some hletter _ _ => rcases hletter with rfl | rfl <;> simp [EndsDigits]
  have hfractionEnds : EndsDigits (fraction ++ (exponent ++ rest)) := by
    cases hfraction with
    | none => exact hpoint.2
    | some _ => exact EndsDigits.cons (by decide) _
  obtain ⟨negative, hnegative⟩ :=
    readMinus_written hminus hwhole (fraction ++ (exponent ++ rest))
  obtain ⟨digits, hdigits⟩ := readFraction_written hfraction truncated hpoint.1 hpoint.2
  obtain ⟨power, hpower⟩ := readExponent_written hexponent truncated hrest
  refine ⟨⟨negative, whole, digits, power⟩, ?_⟩
  have hshape : minus ++ (whole ++ (fraction ++ exponent)) ++ rest =
      minus ++ (whole ++ (fraction ++ (exponent ++ rest))) := by simp
  rw [hshape, readNumeral, hnegative]
  simp only [readWhole_written hwhole truncated hfractionEnds, hdigits, hpower, bind, Except.bind,
    pure, Except.pure]

/-! ## Natural numbers -/

theorem le_ofDigitChars (digits : List Char) (start : ℕ) :
    start ≤ Nat.ofDigitChars 10 digits start := by
  induction digits generalizing start with
  | nil => simp
  | cons digit digits ih =>
      rw [Nat.ofDigitChars_cons]
      exact Nat.le_trans (by omega) (ih _)

/-- All digits of a number below the bound are gathered. -/
theorem gather_eq {bound start : ℕ} {digits : List Char}
    (h : Nat.ofDigitChars 10 digits start < bound) :
    gather bound start digits = (Nat.ofDigitChars 10 digits start, []) := by
  induction digits generalizing start with
  | nil => rfl
  | cons digit digits ih =>
      have hnext : start * 10 + digitValue digit =
          10 * start + (digit.toNat - '0'.toNat) := by
        rw [digitValue, Nat.mul_comm]
      rw [Nat.ofDigitChars_cons] at h ⊢
      have hsmall : 10 * start + (digit.toNat - '0'.toNat) < bound :=
        Nat.lt_of_le_of_lt (le_ofDigitChars digits _) h
      rw [gather, hnext, if_pos hsmall, ih h]

theorem isDigit_of_mem_writeNatural {value : ℕ} {c : Char} (h : c ∈ writeNatural value) :
    c.isDigit :=
  Nat.isDigit_of_mem_toDigits (by decide) (by decide) h

/-- Only the number zero is written with a zero in front. -/
theorem writeNatural_of_head?_eq_zero {value : ℕ} (h : (writeNatural value).head? = some '0') :
    writeNatural value = ['0'] := by
  induction value using Nat.strongRecOn with
  | ind value ih =>
      unfold writeNatural at h ih ⊢
      by_cases hsmall : value < 10
      · rw [Nat.toDigits_of_lt_base hsmall] at h ⊢
        obtain hzero : value.digitChar = '0' := by simpa using h
        rw [hzero]
      · -- The digits in front are those of a smaller number, which is not zero.
        have hhead : (Nat.toDigits 10 (value / 10)).head? = some '0' := by
          obtain ⟨first, digits, hfirst⟩ :=
            List.exists_cons_of_ne_nil (Nat.toDigits_ne_nil (n := value / 10) (b := 10))
          rw [Nat.toDigits_of_base_le (by decide) (by omega), hfirst] at h
          rw [hfirst]
          exact h
        have hfront := ih (value / 10) (by omega) hhead
        have hvalue := Nat.ofDigitChars_ten_toDigits (n := value / 10)
        rw [hfront] at hvalue
        have : value / 10 = 0 := hvalue.symm
        omega

theorem whole_writeNatural (value : ℕ) : Whole (writeNatural value) := by
  by_cases hzero : (writeNatural value).head? = some '0'
  · rw [writeNatural_of_head?_eq_zero hzero]
    exact .zero
  · obtain ⟨first, digits, hwritten⟩ :=
      List.exists_cons_of_ne_nil (Nat.toDigits_ne_nil (n := value) (b := 10))
    rw [writeNatural, hwritten] at hzero ⊢
    refine .digits (fun hfirst => hzero (by rw [hfirst]; rfl)) ?_
    intro c hc
    exact isDigit_of_mem_writeNatural (by rw [writeNatural, hwritten]; exact hc)

/-- A written word is read as a number without anything behind its digits. -/
theorem readNumber_written (value : UInt64) {rest : List Char} (hrest : Ends rest) :
    readNumber (writeNatural value.toNat ++ rest) = .ok (.natural value, rest) := by
  have hwhole := whole_writeNatural value.toNat
  have hpoint : '.' ∉ rest.head? := by
    intro hmem
    exact absurd (hrest '.' hmem) (by decide)
  have hnumeral : readNumeral .endOfValue (writeNatural value.toNat ++ rest) =
      .ok (⟨false, writeNatural value.toNat, none, none⟩, rest) := by
    have hminus : readMinus (writeNatural value.toNat ++ rest) =
        (false, writeNatural value.toNat ++ rest) := by
      obtain ⟨first, digits, hwritten, hfirst⟩ := hwhole.eq_cons
      rw [hwritten]
      exact readMinus_of_isDigit hfirst _
    rw [readNumeral, hminus]
    simp only [readWhole_written hwhole _ hrest.endsDigits, readFraction_of_ends hpoint,
      readExponent_of_ends hrest, bind, Except.bind, pure, Except.pure]
  have hgather : gather UInt64.size 0 (writeNatural value.toNat) = (value.toNat, []) := by
    have hvalue : Nat.ofDigitChars 10 (writeNatural value.toNat) 0 = value.toNat :=
      Nat.ofDigitChars_ten_toDigits
    rw [gather_eq (by rw [hvalue]; exact value.toNat_lt), hvalue]
  have hnumber : Numeral.value ⟨false, writeNatural value.toNat, none, none⟩ =
      .ok (.natural value) := by
    simp [Numeral.value, hgather]
  rw [readNumber, hnumeral]
  simp only [bind, Except.bind, hnumber]
  rfl

end EbnfLexer.Json

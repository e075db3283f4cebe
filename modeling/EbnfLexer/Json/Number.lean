import EbnfLexer.Json.Reader

/-!
# Numbers

A numeral is read by the grammar of JSON first; what number it stands for is a
second question.  A numeral without fraction and exponent is an integer as long
as it fits into 64 bits.  Every other numeral is a binary64 number: the leading
digits that fit into a 64-bit word, multiplied or divided by a power of ten.
-/

namespace EbnfLexer.Json

/-- The parts of a number as they are written. -/
structure Numeral where
  negative : Bool
  whole : List Char
  /-- The digits after the decimal point, if there is one. -/
  fraction : Option (List Char)
  /-- Whether the exponent has the sign `-`, and its digits. -/
  exponent : Option (Bool × List Char)
  deriving DecidableEq, Repr

/-- The digits at the beginning of a text, and the text after them. -/
def readDigits (text : List Char) : List Char × List Char :=
  (text.takeWhile Char.isDigit, text.dropWhile Char.isDigit)

/-- The digits before the decimal point; a leading zero stands alone. -/
def readWhole (truncated : Cause) (text : List Char) : Except Failure (List Char × List Char) :=
  match text with
  | [] => .error (truncated.at [])
  | '0' :: rest =>
    match rest with
    | c :: _ => if c.isDigit then .error (Cause.invalidNumber.within rest) else .ok (['0'], rest)
    | [] => .ok (['0'], [])
  | c :: _ => if c.isDigit then .ok (readDigits text) else .error (Cause.invalidNumber.within text)

/-- A decimal point and at least one digit, or nothing. -/
def readFraction (truncated : Cause) (text : List Char) :
    Except Failure (Option (List Char) × List Char) :=
  match text with
  | '.' :: rest =>
    match readDigits rest with
    | ([], []) => .error (truncated.within [])
    | ([], rest) => .error (Cause.invalidNumber.within rest)
    | (digits, rest) => .ok (some digits, rest)
  | _ => .ok (none, text)

/-- The sign of an exponent, where the sign `+` may be left out. -/
def readSign (text : List Char) : Bool × List Char :=
  match text with
  | '+' :: rest => (false, rest)
  | '-' :: rest => (true, rest)
  | _ => (false, text)

/-- An exponent with at least one digit, or nothing. -/
def readExponent (truncated : Cause) (text : List Char) :
    Except Failure (Option (Bool × List Char) × List Char) :=
  match text with
  | c :: rest =>
    if c = 'e' ∨ c = 'E' then
      let (negative, rest) := readSign rest
      match rest with
      | [] => .error (truncated.at [])
      | d :: _ =>
        if d.isDigit then
          let (digits, rest) := readDigits rest
          .ok (some (negative, digits), rest)
        else .error (Cause.invalidNumber.within rest)
    else .ok (none, text)
  | [] => .ok (none, [])

/-- Whether a text begins with the sign `-`, and the text after it. -/
def readMinus (text : List Char) : Bool × List Char :=
  match text with
  | '-' :: rest => (true, rest)
  | _ => (false, text)

/-- A number by the grammar of JSON.  The failure `truncated` is the one of a text that ends where
a digit has to follow. -/
def readNumeral (truncated : Cause) (text : List Char) : Except Failure (Numeral × List Char) := do
  let signed := readMinus text
  let (whole, rest) ← readWhole truncated signed.2
  let (fraction, rest) ← readFraction truncated rest
  let (exponent, rest) ← readExponent truncated rest
  return (⟨signed.1, whole, fraction, exponent⟩, rest)

/-! ## The number that a numeral stands for -/

/-- The numbers that are told apart. -/
inductive Number where
  | natural (value : UInt64)
  /-- An integer below zero. -/
  | negative (value : Int)
  /-- A binary64 number by its bits. -/
  | float (bits : UInt64)
  deriving DecidableEq, Repr

/-- A number as something found in a text. -/
def Number.found : Number → Found
  | natural value => .integer value.toNat
  | negative value => .integer value
  | float bits => .float bits

/-- The value of a decimal digit. -/
def digitValue (digit : Char) : Nat := digit.toNat - '0'.toNat

/-- The number below `bound` made by appending digits to `start`, as many as possible, and the
digits that were not appended. -/
def gather (bound start : Nat) : List Char → Nat × List Char
  | [] => (start, [])
  | digit :: digits =>
    let further := start * 10 + digitValue digit
    if further < bound then gather bound further digits else (start, digit :: digits)

/-- The power of ten nearest to `10 ^ n`. -/
def powerOfTen (n : Nat) : Float := Float.ofScientific 1 false n

/-- A number divided by `10 ^ n`, in steps that a divisor can express. -/
def scaleDown (value : Float) (n : Nat) : Float :=
  if n ≤ 308 then value / powerOfTen n
  else if value == 0 then value
  else scaleDown (value / powerOfTen 308) (n - 308)
termination_by n
decreasing_by omega

/-- A number multiplied by `10 ^ n`, unless the product is too large. -/
def scaleUp? (value : Float) (n : Nat) : Option Float :=
  if n ≤ 308 then
    let product := value * powerOfTen n
    if product.isInf then none else some product
  else if value == 0 then some value
  else none

/-- The binary64 number for `significand * 10 ^ exponent`. -/
def scale? (significand : Nat) (exponent : Int) : Option Float :=
  let value := significand.toUInt64.toFloat
  if exponent ≥ 0 then scaleUp? value exponent.toNat else some (scaleDown value exponent.natAbs)

/-- The bits of a number with a sign put before it. -/
def signedBits (negative : Bool) (magnitude : Float) : UInt64 :=
  (if negative then -magnitude else magnitude).toBits

/-- The number that a numeral stands for.  Where it is too large, the answer is how many digits
at the end of the numeral were not needed to find this out. -/
def Numeral.value (numeral : Numeral) : Except Nat Number :=
  let (whole, dropped) := gather UInt64.size 0 numeral.whole
  let fraction := numeral.fraction.getD []
  let (significand, ignored) := gather UInt64.size whole fraction
  let shift : Int := dropped.length - ((fraction.length : Int) - ignored.length)
  let float (exponent : Int) : Except Nat Number :=
    match scale? significand exponent with
    | some magnitude => .ok (.float (signedBits numeral.negative magnitude))
    | none => .error 0
  match numeral.fraction, numeral.exponent with
  | none, none =>
    if dropped ≠ [] then float shift
    else if numeral.negative = false then .ok (.natural whole.toUInt64)
    else if whole = 0 ∨ whole > UInt64.size / 2 then float 0
    else .ok (.negative (-(whole : Int)))
  | _, none => float shift
  | _, some (negative, digits) =>
    match gather (UInt32.size / 2) 0 digits with
    | (exponent, []) => float (if negative then shift - exponent else shift + exponent)
    | (_, _ :: unread) =>
      if significand ≠ 0 ∧ negative = false then .error unread.length
      else .ok (.float (signedBits numeral.negative 0))

/-- A number of one of the sorts that are told apart. -/
def readNumber (text : List Char) : Except Failure (Number × List Char) := do
  let (numeral, rest) ← readNumeral .endOfValue text
  match numeral.value with
  | .ok number => return (number, rest)
  | .error unread => throw ⟨.numberOutOfRange, byteCount rest + unread⟩

/-! ## What remains after a number -/

theorem length_readDigits_le (text : List Char) : (readDigits text).2.length ≤ text.length :=
  length_dropWhile_le Char.isDigit text

theorem readDigits_shorter {c : Char} (tail : List Char) (hdigit : c.isDigit) :
    (readDigits (c :: tail)).2.length < (c :: tail).length := by
  simp only [readDigits, List.dropWhile_cons, hdigit, if_true, List.length_cons]
  exact Nat.lt_succ_of_le (length_dropWhile_le Char.isDigit tail)

theorem readWhole_shorter {truncated : Cause} {text whole rest : List Char}
    (h : readWhole truncated text = .ok (whole, rest)) : rest.length < text.length := by
  rcases text with _ | ⟨c, tail⟩
  · simp [readWhole] at h
  · by_cases hzero : c = '0'
    · subst hzero
      rcases tail with _ | ⟨d, further⟩
      · cases h
        simp
      · by_cases hdigit : d.isDigit
        · simp [readWhole, hdigit] at h
        · simp only [readWhole, hdigit] at h
          cases h
          simp
    · by_cases hdigit : c.isDigit
      · simp only [readWhole, hdigit, if_true, Except.ok.injEq] at h
        have hrest : (readDigits (c :: tail)).2 = rest := by rw [h]
        exact hrest ▸ readDigits_shorter tail hdigit
      · simp [readWhole, hdigit] at h

theorem readFraction_length_le {truncated : Cause} {text rest : List Char}
    {fraction : Option (List Char)} (h : readFraction truncated text = .ok (fraction, rest)) :
    rest.length ≤ text.length := by
  rcases text with _ | ⟨c, tail⟩
  · cases h
    exact Nat.le_refl _
  · by_cases hpoint : c = '.'
    · subst hpoint
      have htail := length_readDigits_le tail
      rcases hread : readDigits tail with ⟨_ | ⟨digit, digits⟩, after⟩
      · cases after <;> simp [readFraction, hread] at h
      · simp only [readFraction, hread] at h
        cases h
        rw [hread] at htail
        exact Nat.le_succ_of_le htail
    · simp [readFraction, hpoint] at h
      simp [← h.2]

theorem length_readSign_le (text : List Char) : (readSign text).2.length ≤ text.length := by
  unfold readSign
  split <;> simp

theorem length_readMinus_le (text : List Char) : (readMinus text).2.length ≤ text.length := by
  unfold readMinus
  split <;> simp

theorem readExponent_length_le {truncated : Cause} {text rest : List Char}
    {exponent : Option (Bool × List Char)}
    (h : readExponent truncated text = .ok (exponent, rest)) : rest.length ≤ text.length := by
  rcases text with _ | ⟨c, tail⟩
  · cases h
    exact Nat.le_refl _
  · by_cases hletter : c = 'e' ∨ c = 'E'
    · have hsign := length_readSign_le tail
      rcases hread : readSign tail with ⟨negative, _ | ⟨d, further⟩⟩
      · simp [readExponent, hletter, hread] at h
      · rw [hread] at hsign
        by_cases hdigit : d.isDigit
        · simp only [readExponent, hletter, hread, hdigit, if_true] at h
          cases h
          have hdigits := readDigits_shorter further hdigit
          simp only [List.length_cons] at hsign hdigits ⊢
          omega
        · simp [readExponent, hletter, hread, hdigit] at h
    · simp only [readExponent, hletter, if_false] at h
      cases h
      exact Nat.le_refl _

theorem readNumeral_shorter {truncated : Cause} {text rest : List Char} {numeral : Numeral}
    (h : readNumeral truncated text = .ok (numeral, rest)) : rest.length < text.length := by
  unfold readNumeral at h
  obtain ⟨⟨whole, afterWhole⟩, wholeRead, h⟩ := bind_eq_ok h
  obtain ⟨⟨fraction, afterFraction⟩, fractionRead, h⟩ := bind_eq_ok h
  obtain ⟨⟨exponent, afterExponent⟩, exponentRead, h⟩ := bind_eq_ok h
  cases h
  have signed := length_readMinus_le text
  have := readWhole_shorter wholeRead
  have := readFraction_length_le fractionRead
  have := readExponent_length_le exponentRead
  omega

theorem readNumber_shorter {text rest : List Char} {number : Number}
    (h : readNumber text = .ok (number, rest)) : rest.length < text.length := by
  unfold readNumber at h
  obtain ⟨⟨numeral, afterNumeral⟩, numeralRead, h⟩ := bind_eq_ok h
  cases hvalue : numeral.value with
  | error unread => simp [hvalue] at h
  | ok value =>
    simp only [hvalue] at h
    cases h
    exact readNumeral_shorter numeralRead

end EbnfLexer.Json

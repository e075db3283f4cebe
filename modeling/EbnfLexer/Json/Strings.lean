import EbnfLexer.Json.Reader

/-!
# Strings

A string is read from after its opening quotation mark.  Its characters stand for
themselves, other than control characters, which have to be written as escapes.
A character beyond the basic plane may be written as a pair of surrogates.

A string whose content is of no interest is skipped.  Its escapes are still
checked, but not what their code units stand for.
-/

namespace EbnfLexer.Json

/-- The value of a hexadecimal digit. -/
def hexValue? (c : Char) : Option Nat :=
  if '0' ≤ c ∧ c ≤ '9' then some (c.toNat - '0'.toNat)
  else if 'a' ≤ c ∧ c ≤ 'f' then some (c.toNat - 'a'.toNat + 10)
  else if 'A' ≤ c ∧ c ≤ 'F' then some (c.toNat - 'A'.toNat + 10)
  else none

/-- The number that four hexadecimal digits stand for. -/
def unitValue? (a b c d : Char) : Option Nat := do
  let a ← hexValue? a
  let b ← hexValue? b
  let c ← hexValue? c
  let d ← hexValue? d
  return ((a * 16 + b) * 16 + c) * 16 + d

/-- A code unit of four hexadecimal digits.  Four bytes are taken in before they are looked at. -/
def readUnit (text : List Char) : Except Failure (Nat × List Char) :=
  if byteCount text < 4 then .error (Cause.endOfString.at [])
  else
    match text with
    | a :: b :: c :: d :: rest =>
      match unitValue? a b c d with
      | some unit => .ok (unit, rest)
      | none => .error ⟨.invalidEscape, byteCount text - 4⟩
    | _ => .error ⟨.invalidEscape, byteCount text - 4⟩

/-- A particular character of an escape for the second half of a surrogate pair. -/
def readPairing (expected : Char) (text : List Char) : Except Failure (List Char) :=
  match text with
  | [] => .error (Cause.endOfString.at [])
  | c :: rest =>
    if c = expected then .ok rest else .error (Cause.unfinishedSurrogatePair.within text)

/-- The character that a code unit begins: the unit itself, or what it makes together with the
surrogate after it. -/
def readCodePoint (unit : Nat) (text : List Char) : Except Failure (Char × List Char) := do
  if 0xDC00 ≤ unit ∧ unit ≤ 0xDFFF then throw (Cause.loneSurrogate.at text)
  else if 0xD800 ≤ unit ∧ unit ≤ 0xDBFF then
    let rest ← readPairing '\\' text
    let rest ← readPairing 'u' rest
    let (second, rest) ← readUnit rest
    if 0xDC00 ≤ second ∧ second ≤ 0xDFFF then
      return (Char.ofNat (0x10000 + (unit - 0xD800) * 0x400 + (second - 0xDC00)), rest)
    else throw (Cause.loneSurrogate.at rest)
  else return (Char.ofNat unit, text)

/-- The character that a one-letter escape stands for. -/
def shortEscape? (c : Char) : Option Char :=
  match c with
  | '"' => some '"'
  | '\\' => some '\\'
  | '/' => some '/'
  | 'b' => some '\x08'
  | 'f' => some '\x0c'
  | 'n' => some '\n'
  | 'r' => some '\r'
  | 't' => some '\t'
  | _ => none

/-- The character that an escape stands for, from after the backslash. -/
def readEscape (text : List Char) : Except Failure (Char × List Char) :=
  match text with
  | [] => .error (Cause.endOfString.at [])
  | c :: rest =>
    match shortEscape? c with
    | some plain => .ok (plain, rest)
    | none =>
      if c = 'u' then
        match readUnit rest with
        | .ok (unit, rest) => readCodePoint unit rest
        | .error failure => .error failure
      else .error (Cause.invalidEscape.within text)

/-- What remains after an escape, from after the backslash. -/
def skipEscape (text : List Char) : Except Failure (List Char) :=
  match text with
  | [] => .error (Cause.endOfString.at [])
  | c :: rest =>
    if (shortEscape? c).isSome then .ok rest
    else if c = 'u' then (readUnit rest).map Prod.snd
    else .error (Cause.invalidEscape.within text)

/-! ## Escapes that were read -/

theorem readPairing_eq_ok {expected : Char} {text rest : List Char}
    (h : readPairing expected text = .ok rest) : text = expected :: rest := by
  cases text with
  | nil => contradiction
  | cons c tail =>
    by_cases hsame : c = expected
    · simp only [readPairing, hsame, if_true] at h
      rw [hsame, Except.ok.inj h]
    · simp [readPairing, hsame] at h

/-- Behind the unit that a character begins with comes the rest, or another escape before it. -/
theorem readCodePoint_eq_ok {unit : Nat} {text rest : List Char} {c : Char}
    (h : readCodePoint unit text = .ok (c, rest)) :
    text = rest ∨ ∃ second low, text = '\\' :: 'u' :: low ∧ readUnit low = .ok (second, rest) := by
  by_cases hlow : 0xDC00 ≤ unit ∧ unit ≤ 0xDFFF
  · simp [readCodePoint, hlow] at h
  by_cases hhigh : 0xD800 ≤ unit ∧ unit ≤ 0xDBFF
  · simp only [readCodePoint, hlow, hhigh] at h
    obtain ⟨afterBackslash, hbackslash, h⟩ := bind_eq_ok h
    obtain ⟨low, hletter, h⟩ := bind_eq_ok h
    obtain ⟨⟨second, afterUnit⟩, hunit, h⟩ := bind_eq_ok h
    by_cases hsecond : 0xDC00 ≤ second ∧ second ≤ 0xDFFF
    · simp only [hsecond] at h
      obtain ⟨-, rfl⟩ := Prod.mk.inj (Except.ok.inj h)
      refine Or.inr ⟨second, low, ?_, hunit⟩
      rw [readPairing_eq_ok hbackslash, readPairing_eq_ok hletter]
    · simp [hsecond] at h
  · simp only [readCodePoint, hlow, hhigh] at h
    cases h
    exact Or.inl rfl

/-- An escape is one letter, or a unit and what belongs to it. -/
theorem readEscape_eq_ok {text rest : List Char} {c : Char}
    (h : readEscape text = .ok (c, rest)) :
    (∃ letter, text = letter :: rest ∧ shortEscape? letter = some c) ∨
      ∃ unit tail after, text = 'u' :: tail ∧ readUnit tail = .ok (unit, after) ∧
        readCodePoint unit after = .ok (c, rest) := by
  cases text with
  | nil => contradiction
  | cons letter tail =>
    cases hshort : shortEscape? letter with
    | some plain =>
      simp only [readEscape, hshort] at h
      cases h
      exact Or.inl ⟨letter, rfl, hshort⟩
    | none =>
      by_cases hunicode : letter = 'u'
      · subst hunicode
        cases hread : readUnit tail with
        | error failure => simp [readEscape, hshort, hread] at h
        | ok found =>
          obtain ⟨unit, after⟩ := found
          simp only [readEscape, hshort, hread, if_true] at h
          exact Or.inr ⟨unit, tail, after, rfl, hread, h⟩
      · simp [readEscape, hshort, hunicode] at h

/-! ## What remains after an escape -/

theorem readUnit_shorter {text rest : List Char} {unit : Nat}
    (h : readUnit text = .ok (unit, rest)) : rest.length < text.length := by
  by_cases hbytes : byteCount text < 4
  · simp [readUnit, hbytes] at h
  · rcases text with _ | ⟨a, _ | ⟨b, _ | ⟨c, _ | ⟨d, tail⟩⟩⟩⟩
    case cons.cons.cons.cons =>
      cases hvalue : unitValue? a b c d with
      | none => simp [readUnit, hbytes, hvalue] at h
      | some value =>
        simp only [readUnit, hbytes, hvalue, if_false] at h
        cases h
        simp only [List.length_cons]
        omega
    all_goals simp [readUnit, hbytes] at h

theorem readCodePoint_length_le {unit : Nat} {text rest : List Char} {c : Char}
    (h : readCodePoint unit text = .ok (c, rest)) : rest.length ≤ text.length := by
  rcases readCodePoint_eq_ok h with rfl | ⟨second, low, rfl, hunit⟩
  · exact Nat.le_refl _
  · have hlow := readUnit_shorter hunit
    simp only [List.length_cons]
    omega

theorem readEscape_shorter {text rest : List Char} {c : Char}
    (h : readEscape text = .ok (c, rest)) : rest.length < text.length := by
  rcases readEscape_eq_ok h with ⟨letter, rfl, -⟩ | ⟨unit, tail, after, rfl, hunit, hpoint⟩
  · exact Nat.lt_succ_self _
  · refine Nat.lt_succ_of_le ?_
    calc rest.length
        ≤ after.length := readCodePoint_length_le hpoint
      _ ≤ tail.length := Nat.le_of_lt (readUnit_shorter hunit)

theorem skipEscape_shorter {text rest : List Char}
    (h : skipEscape text = .ok rest) : rest.length < text.length := by
  cases text with
  | nil => contradiction
  | cons letter tail =>
    by_cases hshort : (shortEscape? letter).isSome
    · simp only [skipEscape, hshort, if_true] at h
      cases h
      exact Nat.lt_succ_self _
    · by_cases hunicode : letter = 'u'
      · subst hunicode
        simp only [skipEscape, hshort] at h
        obtain ⟨⟨unit, afterUnit⟩, hread, rfl⟩ := map_eq_ok h
        exact Nat.lt_succ_of_lt (readUnit_shorter hread)
      · simp [skipEscape, hshort, hunicode] at h

/-! ## Whole strings -/

/-- A string from after its opening quotation mark, behind the characters already read. -/
def readStringFrom (read : String) (text : List Char) : Except Failure (String × List Char) :=
  match text with
  | [] => .error (Cause.endOfString.at [])
  | c :: rest =>
    if c = '"' then .ok (read, rest)
    else if c = '\\' then
      match h : readEscape rest with
      | .ok (escaped, after) =>
        have := readEscape_shorter h
        readStringFrom (read.push escaped) after
      | .error failure => .error failure
    else if c.toNat < 0x20 then .error (Cause.controlCharacter.at rest)
    else readStringFrom (read.push c) rest
termination_by text.length

/-- A string from after its opening quotation mark. -/
def readString (text : List Char) : Except Failure (String × List Char) := readStringFrom "" text

/-- What remains after a string, from after its opening quotation mark. -/
def skipString (text : List Char) : Except Failure (List Char) :=
  match text with
  | [] => .error (Cause.endOfString.at [])
  | c :: rest =>
    if c = '"' then .ok rest
    else if c = '\\' then
      match h : skipEscape rest with
      | .ok after =>
        have := skipEscape_shorter h
        skipString after
      | .error failure => .error failure
    else if c.toNat < 0x20 then .error (Cause.controlCharacter.at text)
    else skipString rest
termination_by text.length

theorem readStringFrom_shorter {read : String} {text rest : List Char} {string : String}
    (h : readStringFrom read text = .ok (string, rest)) : rest.length < text.length := by
  fun_induction readStringFrom read text with
  | case1 => contradiction
  | case2 => cases h; simp
  | case3 read tail _ escaped after same this ih =>
    have := ih h
    simp only [List.length_cons]
    omega
  | case4 => contradiction
  | case5 => contradiction
  | case6 read c tail _ _ _ ih =>
    have := ih h
    simp only [List.length_cons]
    omega

theorem readString_shorter {text rest : List Char} {string : String}
    (h : readString text = .ok (string, rest)) : rest.length < text.length :=
  readStringFrom_shorter h

theorem skipString_shorter {text rest : List Char}
    (h : skipString text = .ok rest) : rest.length < text.length := by
  fun_induction skipString text with
  | case1 => contradiction
  | case2 => cases h; simp
  | case3 tail _ after same this ih =>
    have := ih h
    simp only [List.length_cons]
    omega
  | case4 => contradiction
  | case5 => contradiction
  | case6 c tail _ _ _ ih =>
    have := ih h
    simp only [List.length_cons]
    omega

end EbnfLexer.Json

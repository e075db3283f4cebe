import EbnfLexer.Json.Scalars

/-!
# Skipping a value

A value that nobody asks for is passed over.  It has to be correct JSON, but its
strings and numbers are not turned into anything.  A number that is broken off
at the end of the text is simply not a number here.  The brackets around the
present place are kept in a list, innermost first, so values may be nested to
any depth.
-/

namespace EbnfLexer.Json

/-- The two sorts of brackets. -/
inductive Bracket where
  | list
  | object
  deriving DecidableEq, Repr

/-- The character that closes a bracket. -/
def Bracket.closing : Bracket → Char
  | list => ']'
  | object => '}'

/-- The failure to find the end of a bracket. -/
def Bracket.unclosed : Bracket → Cause
  | list => .endOfList
  | object => .endOfObject

/-- The failure to find a separator or the end of a bracket. -/
def Bracket.unseparated : Bracket → Cause
  | list => .expectedListSeparator
  | object => .expectedObjectSeparator

/-- What has just been passed over. -/
inductive Passed where
  /-- Nothing that belongs to the next value, which has to follow. -/
  | nothing
  /-- A whole value. -/
  | value
  /-- An opening bracket, the innermost one. -/
  | opening
  deriving DecidableEq, Repr

/-- The key and the colon before an entry of an object; nothing before an entry of a list. -/
def skipKey (bracket : Bracket) (text : List Char) : Except Failure (List Char) :=
  match bracket with
  | .list => .ok text
  | .object =>
    match skipBlank text with
    | [] => .error (Cause.endOfObject.within [])
    | c :: rest =>
      if c = '"' then do readColon (← skipString rest)
      else .error (Cause.keyNotString.within (c :: rest))

/-- A value without parts, or the opening bracket of a value with parts. -/
def skipBeginning (text : List Char) : Except Failure (Option Bracket × List Char) :=
  match skipBlank text with
  | [] => .error (Cause.endOfValue.within [])
  | c :: rest =>
    if c = 'n' then (readLetters ['u', 'l', 'l'] rest).map fun rest => (none, rest)
    else if c = 't' then (readLetters ['r', 'u', 'e'] rest).map fun rest => (none, rest)
    else if c = 'f' then (readLetters ['a', 'l', 's', 'e'] rest).map fun rest => (none, rest)
    else if c = '-' ∨ c.isDigit then
      (readNumeral .invalidNumber (c :: rest)).map fun (_, rest) => (none, rest)
    else if c = '"' then (skipString rest).map fun rest => (none, rest)
    else if c = '[' then .ok (some .list, rest)
    else if c = '{' then .ok (some .object, rest)
    else .error (Cause.expectedValue.within (c :: rest))

theorem skipKey_length_le {bracket : Bracket} {text rest : List Char}
    (h : skipKey bracket text = .ok rest) : rest.length ≤ text.length := by
  cases bracket with
  | list =>
    cases h
    exact Nat.le_refl _
  | object =>
    cases hbegin : skipBlank text with
    | nil => simp [skipKey, hbegin] at h
    | cons c tail =>
      by_cases hquote : c = '"'
      · simp only [skipKey, hbegin, hquote, if_true] at h
        obtain ⟨afterKey, hkey, hcolon⟩ := bind_eq_ok h
        refine Nat.le_of_lt ?_
        calc rest.length
            < afterKey.length := readColon_shorter hcolon
          _ < tail.length := skipString_shorter hkey
          _ < text.length := length_lt_of_skipBlank hbegin
      · simp [skipKey, hbegin, hquote] at h

theorem skipBeginning_shorter {text rest : List Char} {bracket : Option Bracket}
    (h : skipBeginning text = .ok (bracket, rest)) : rest.length < text.length := by
  have hblank := length_skipBlank_le text
  cases hbegin : skipBlank text with
  | nil => simp [skipBeginning, hbegin] at h
  | cons c tail =>
    rw [hbegin] at hblank
    refine Nat.lt_of_lt_of_le ?_ hblank
    simp only [skipBeginning, hbegin] at h
    by_cases hnull : c = 'n'
    · rw [if_pos hnull] at h
      exact Nat.lt_succ_of_le (readLetters_length_le (map_pair_eq_ok h).2)
    rw [if_neg hnull] at h
    by_cases htrue : c = 't'
    · rw [if_pos htrue] at h
      exact Nat.lt_succ_of_le (readLetters_length_le (map_pair_eq_ok h).2)
    rw [if_neg htrue] at h
    by_cases hfalse : c = 'f'
    · rw [if_pos hfalse] at h
      exact Nat.lt_succ_of_le (readLetters_length_le (map_pair_eq_ok h).2)
    rw [if_neg hfalse] at h
    by_cases hnumber : c = '-' ∨ c.isDigit
    · rw [if_pos hnumber] at h
      obtain ⟨⟨numeral, after⟩, hread, hpair⟩ := map_eq_ok h
      cases hpair
      exact readNumeral_shorter hread
    rw [if_neg hnumber] at h
    by_cases hquote : c = '"'
    · rw [if_pos hquote] at h
      exact Nat.lt_succ_of_lt (skipString_shorter (map_pair_eq_ok h).2)
    rw [if_neg hquote] at h
    by_cases hlist : c = '['
    · rw [if_pos hlist] at h
      cases h
      exact Nat.lt_succ_self _
    rw [if_neg hlist] at h
    by_cases hobject : c = '{'
    · rw [if_pos hobject] at h
      cases h
      exact Nat.lt_succ_self _
    · rw [if_neg hobject] at h
      contradiction

/-- What remains after the value around the present place: the brackets still to be closed, the
innermost first, and what has just been passed over. -/
def skipFrom (brackets : List Bracket) (passed : Passed) (text : List Char) :
    Except Failure (List Char) :=
  match passed, brackets with
  | .nothing, brackets =>
    match h : skipBeginning text with
    | .error failure => .error failure
    | .ok (none, rest) =>
      have := skipBeginning_shorter h
      skipFrom brackets .value rest
    | .ok (some bracket, rest) =>
      have := skipBeginning_shorter h
      skipFrom (bracket :: brackets) .opening rest
  | _, [] => .ok text
  | .opening, bracket :: brackets =>
    match h : skipBlank text with
    | [] => .error (bracket.unclosed.within [])
    | c :: rest =>
      have := length_lt_of_skipBlank h
      if c = bracket.closing then skipFrom brackets .value rest
      else
        match h : skipKey bracket text with
        | .error failure => .error failure
        | .ok rest =>
          have := skipKey_length_le h
          skipFrom (bracket :: brackets) .nothing rest
  | .value, bracket :: brackets =>
    match h : skipBlank text with
    | [] => .error (bracket.unclosed.within [])
    | c :: rest =>
      have := length_lt_of_skipBlank h
      if c = ',' then
        match h : skipKey bracket rest with
        | .error failure => .error failure
        | .ok rest =>
          have := skipKey_length_le h
          skipFrom (bracket :: brackets) .nothing rest
      else if c = bracket.closing then skipFrom brackets .value rest
      else .error (bracket.unseparated.within (c :: rest))
termination_by (text.length, if passed = .opening then 1 else 0)
decreasing_by
  all_goals simp_wf
  all_goals grind

theorem skipFrom_length_le {brackets : List Bracket} {passed : Passed} {text rest : List Char}
    (h : skipFrom brackets passed text = .ok rest) : rest.length ≤ text.length := by
  fun_induction skipFrom brackets passed text <;> grind

/-- What remains after any value. -/
def skipValue (text : List Char) : Except Failure (List Char) := skipFrom [] .nothing text

theorem skipValue_shorter {text rest : List Char}
    (h : skipValue text = .ok rest) : rest.length < text.length := by
  rw [skipValue, skipFrom] at h
  split at h
  · contradiction
  · next after hbegin =>
    exact Nat.lt_of_le_of_lt (skipFrom_length_le h) (skipBeginning_shorter hbegin)
  · next bracket after hbegin =>
    exact Nat.lt_of_le_of_lt (skipFrom_length_le h) (skipBeginning_shorter hbegin)

end EbnfLexer.Json

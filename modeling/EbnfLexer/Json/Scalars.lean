import EbnfLexer.Json.Number
import EbnfLexer.Json.Strings

/-!
# Values without parts

Readers for numbers, strings, truth values, `null` and names out of a fixed set.
Where another value stands in the place of the expected one, the failure says
which.  Such a value is read first, so a mistake inside it is reported instead.
-/

namespace EbnfLexer.Json

/-- The remaining letters of a word such as `null`. -/
def readLetters : List Char → List Char → Except Failure (List Char)
  | [], text => .ok text
  | _ :: _, [] => .error (Cause.endOfValue.at [])
  | letter :: letters, c :: rest =>
    if c = letter then readLetters letters rest
    else .error (Cause.expectedIdent.within (c :: rest))

theorem readLetters_length_le {letters text rest : List Char}
    (h : readLetters letters text = .ok rest) : rest.length ≤ text.length := by
  fun_induction readLetters letters text with
  | case1 => cases h; exact Nat.le_refl _
  | case2 => contradiction
  | case3 letters letter tail ih =>
    have := ih h
    simp only [List.length_cons]
    omega
  | case4 => contradiction

/-- What stands in a text, and the text after it; the parts of lists and objects are not read.
The first character is one that begins a value. -/
def readFound (text : List Char) : Except Failure (Found × List Char) :=
  match text with
  | [] => .error (Cause.endOfValue.within [])
  | c :: rest =>
    if c = 'n' then (readLetters ['u', 'l', 'l'] rest).map fun rest => (.null, rest)
    else if c = 't' then (readLetters ['r', 'u', 'e'] rest).map fun rest => (.boolean true, rest)
    else if c = 'f' then
      (readLetters ['a', 'l', 's', 'e'] rest).map fun rest => (.boolean false, rest)
    else if c = '-' ∨ c.isDigit then
      (readNumber text).map fun (number, rest) => (number.found, rest)
    else if c = '"' then (readString rest).map fun (string, rest) => (.string string, rest)
    else if c = '[' then .ok (.sequence, text)
    else if c = '{' then .ok (.map, text)
    else .error (Cause.expectedValue.within text)

/-- The failure to find what was expected at the beginning of a text. -/
def mismatch (expected : String) (text : List Char) : Failure :=
  match readFound text with
  | .ok (found, rest) => (Cause.invalidType found expected).at rest
  | .error failure => failure

/-- A whole number that fits into 64 bits. -/
def readWord (text : List Char) : Except Failure (UInt64 × List Char) :=
  match skipBlank text with
  | [] => .error (Cause.endOfValue.within [])
  | c :: rest =>
    if c = '-' ∨ c.isDigit then
      match readNumber (c :: rest) with
      | .ok (.natural value, rest) => .ok (value, rest)
      | .ok (.negative value, rest) =>
        .error ((Cause.invalidValue (.integer value) "usize").at rest)
      | .ok (.float bits, rest) => .error ((Cause.invalidType (.float bits) "usize").at rest)
      | .error failure => .error failure
    else .error (mismatch "usize" (c :: rest))

/-- A string. -/
def readText (text : List Char) : Except Failure (String × List Char) :=
  match skipBlank text with
  | [] => .error (Cause.endOfValue.within [])
  | c :: rest =>
    if c = '"' then readString rest else .error (mismatch "a string" (c :: rest))

/-- A truth value. -/
def readBool (text : List Char) : Except Failure (Bool × List Char) :=
  match skipBlank text with
  | [] => .error (Cause.endOfValue.within [])
  | c :: rest =>
    if c = 't' then (readLetters ['r', 'u', 'e'] rest).map fun rest => (true, rest)
    else if c = 'f' then (readLetters ['a', 'l', 's', 'e'] rest).map fun rest => (false, rest)
    else .error (mismatch "a boolean" (c :: rest))

/-- The word `null`. -/
def readNull (text : List Char) : Except Failure (List Char) :=
  match skipBlank text with
  | [] => .error (Cause.endOfValue.within [])
  | c :: rest =>
    if c = 'n' then readLetters ['u', 'l', 'l'] rest
    else .error (mismatch "unit" (c :: rest))

/-- The colon after a key. -/
def readColon (text : List Char) : Except Failure (List Char) :=
  match skipBlank text with
  | [] => .error (Cause.endOfObject.within [])
  | c :: rest => if c = ':' then .ok rest else .error (Cause.expectedColon.within (c :: rest))

/-! ## Names out of a fixed set -/

/-- A set of values with a name for each of them. -/
structure Choice (α : Type) where
  values : List α
  name : α → String

/-- The value whose name a string is, read from after the opening quotation mark. -/
def Choice.readName {α : Type} (choice : Choice α) (text : List Char) :
    Except Failure (α × List Char) :=
  match readString text with
  | .error failure => .error failure
  | .ok (name, rest) =>
    match choice.values.find? fun value => choice.name value == name with
    | some value => .ok (value, rest)
    | none => .error ((Cause.unknownVariant name (choice.values.map choice.name)).at rest)

/-- A name as the only key of an object, whose value is `null`; read from after the brace. -/
def Choice.readKey {α : Type} (choice : Choice α) (text : List Char) :
    Except Failure (α × List Char) := do
  match skipBlank text with
  | [] => throw (Cause.endOfObject.within [])
  | c :: rest =>
    if c = '"' then
      let (value, rest) ← choice.readName rest
      let rest ← readColon rest
      let rest ← readNull rest
      match skipBlank rest with
      | [] => throw (Cause.endOfObject.at [])
      | c :: rest =>
        if c = '}' then return (value, rest) else throw (Cause.expectedValue.at (c :: rest))
    else if c = '}' then throw (Cause.expectedValue.within (c :: rest))
    else throw (Cause.keyNotString.within (c :: rest))

/-- A value by its name, which may stand alone or as a key with the value `null`. -/
def Choice.read {α : Type} (choice : Choice α) (text : List Char) :
    Except Failure (α × List Char) :=
  match skipBlank text with
  | [] => .error (Cause.endOfValue.within [])
  | c :: rest =>
    if c = '"' then choice.readName rest
    else if c = '{' then choice.readKey rest
    else .error (Cause.expectedValue.within (c :: rest))

/-! ## What was read -/

theorem readWord_eq_ok {text rest : List Char} {value : UInt64}
    (h : readWord text = .ok (value, rest)) :
    readNumber (skipBlank text) = .ok (.natural value, rest) := by
  cases hbegin : skipBlank text with
  | nil => simp [readWord, hbegin] at h
  | cons c tail =>
    by_cases hnumber : c = '-' ∨ c.isDigit
    · cases hread : readNumber (c :: tail) with
      | error failure => simp [readWord, hbegin, hnumber, hread] at h
      | ok found =>
        obtain ⟨number, after⟩ := found
        cases number with
        | natural word =>
          simp only [readWord, hbegin, hnumber, hread, if_true] at h
          cases h
          rfl
        | negative integer => simp [readWord, hbegin, hnumber, hread] at h
        | float bits => simp [readWord, hbegin, hnumber, hread] at h
    · simp [readWord, hbegin, hnumber] at h

theorem readText_eq_ok {text rest : List Char} {value : String}
    (h : readText text = .ok (value, rest)) :
    ∃ tail, skipBlank text = '"' :: tail ∧ readString tail = .ok (value, rest) := by
  cases hbegin : skipBlank text with
  | nil => simp [readText, hbegin] at h
  | cons c tail =>
    by_cases hquote : c = '"'
    · subst hquote
      exact ⟨tail, rfl, by simpa [readText, hbegin] using h⟩
    · simp [readText, hbegin, hquote] at h

/-- The letters of a truth value after the first one. -/
theorem readBool_eq_ok {text rest : List Char} {value : Bool}
    (h : readBool text = .ok (value, rest)) :
    ∃ tail, skipBlank text = 't' :: tail ∧ readLetters ['r', 'u', 'e'] tail = .ok rest ∨
      skipBlank text = 'f' :: tail ∧ readLetters ['a', 'l', 's', 'e'] tail = .ok rest := by
  cases hbegin : skipBlank text with
  | nil => simp [readBool, hbegin] at h
  | cons c tail =>
    simp only [readBool, hbegin] at h
    by_cases htrue : c = 't'
    · rw [if_pos htrue] at h
      exact ⟨tail, Or.inl ⟨htrue ▸ rfl, (map_pair_eq_ok h).2⟩⟩
    rw [if_neg htrue] at h
    by_cases hfalse : c = 'f'
    · rw [if_pos hfalse] at h
      exact ⟨tail, Or.inr ⟨hfalse ▸ rfl, (map_pair_eq_ok h).2⟩⟩
    · rw [if_neg hfalse] at h
      contradiction

theorem readNull_eq_ok {text rest : List Char} (h : readNull text = .ok rest) :
    ∃ tail, skipBlank text = 'n' :: tail ∧ readLetters ['u', 'l', 'l'] tail = .ok rest := by
  cases hbegin : skipBlank text with
  | nil => simp [readNull, hbegin] at h
  | cons c tail =>
    by_cases hletter : c = 'n'
    · subst hletter
      exact ⟨tail, rfl, by simpa [readNull, hbegin] using h⟩
    · simp [readNull, hbegin, hletter] at h

theorem readColon_eq_ok {text rest : List Char} (h : readColon text = .ok rest) :
    skipBlank text = ':' :: rest := by
  cases hbegin : skipBlank text with
  | nil => simp [readColon, hbegin] at h
  | cons c tail =>
    by_cases hcolon : c = ':'
    · simp only [readColon, hbegin, hcolon, if_true] at h
      rw [hcolon, Except.ok.inj h]
    · simp [readColon, hbegin, hcolon] at h

namespace Choice

variable {α : Type} {choice : Choice α} {text rest : List Char} {value : α}

theorem readName_eq_ok (h : choice.readName text = .ok (value, rest)) :
    ∃ name, readString text = .ok (name, rest) := by
  cases hread : readString text with
  | error failure => simp [readName, hread] at h
  | ok found =>
    obtain ⟨name, after⟩ := found
    cases hfind : choice.values.find? fun value => choice.name value == name with
    | none => simp [readName, hread, hfind] at h
    | some named =>
      simp only [readName, hread, hfind] at h
      cases h
      exact ⟨name, rfl⟩

/-- A name as a key, from its quotation mark to the brace after its value. -/
theorem readKey_eq_ok (h : choice.readKey text = .ok (value, rest)) :
    ∃ tail afterName afterColon afterNull, skipBlank text = '"' :: tail ∧
      choice.readName tail = .ok (value, afterName) ∧ readColon afterName = .ok afterColon ∧
      readNull afterColon = .ok afterNull ∧ skipBlank afterNull = '}' :: rest := by
  cases hbegin : skipBlank text with
  | nil => simp [readKey, hbegin] at h
  | cons c tail =>
    simp only [readKey, hbegin] at h
    by_cases hquote : c = '"'
    · rw [if_pos hquote] at h
      obtain ⟨⟨named, afterName⟩, hname, h⟩ := bind_eq_ok h
      obtain ⟨afterColon, hcolon, h⟩ := bind_eq_ok h
      obtain ⟨afterNull, hnull, h⟩ := bind_eq_ok h
      cases hend : skipBlank afterNull with
      | nil => simp [hend] at h
      | cons d final =>
        by_cases hbrace : d = '}'
        · simp only [hend, hbrace, if_true] at h
          cases h
          exact ⟨tail, afterName, afterColon, afterNull, hquote ▸ rfl, hname, hcolon, hnull,
            hbrace ▸ hend⟩
        · simp [hend, hbrace] at h
    · by_cases hbrace : c = '}' <;> simp [hquote, hbrace] at h

theorem read_eq_ok (h : choice.read text = .ok (value, rest)) :
    ∃ tail, skipBlank text = '"' :: tail ∧ choice.readName tail = .ok (value, rest) ∨
      skipBlank text = '{' :: tail ∧ choice.readKey tail = .ok (value, rest) := by
  cases hbegin : skipBlank text with
  | nil => simp [read, hbegin] at h
  | cons c tail =>
    simp only [read, hbegin] at h
    by_cases hquote : c = '"'
    · rw [if_pos hquote] at h
      exact ⟨tail, Or.inl ⟨hquote ▸ rfl, h⟩⟩
    rw [if_neg hquote] at h
    by_cases hbrace : c = '{'
    · rw [if_pos hbrace] at h
      exact ⟨tail, Or.inr ⟨hbrace ▸ rfl, h⟩⟩
    · rw [if_neg hbrace] at h
      contradiction

end Choice

/-! ## What remains -/

theorem readWord_shorter {text rest : List Char} {value : UInt64}
    (h : readWord text = .ok (value, rest)) : rest.length < text.length :=
  Nat.lt_of_lt_of_le (readNumber_shorter (readWord_eq_ok h)) (length_skipBlank_le text)

theorem readText_shorter {text rest : List Char} {value : String}
    (h : readText text = .ok (value, rest)) : rest.length < text.length := by
  obtain ⟨tail, hbegin, hstring⟩ := readText_eq_ok h
  exact Nat.lt_trans (readString_shorter hstring) (length_lt_of_skipBlank hbegin)

theorem readBool_shorter {text rest : List Char} {value : Bool}
    (h : readBool text = .ok (value, rest)) : rest.length < text.length := by
  obtain ⟨tail, ⟨hbegin, hletters⟩ | ⟨hbegin, hletters⟩⟩ := readBool_eq_ok h
  · exact Nat.lt_of_le_of_lt (readLetters_length_le hletters) (length_lt_of_skipBlank hbegin)
  · exact Nat.lt_of_le_of_lt (readLetters_length_le hletters) (length_lt_of_skipBlank hbegin)

theorem readNull_shorter {text rest : List Char}
    (h : readNull text = .ok rest) : rest.length < text.length := by
  obtain ⟨tail, hbegin, hletters⟩ := readNull_eq_ok h
  exact Nat.lt_of_le_of_lt (readLetters_length_le hletters) (length_lt_of_skipBlank hbegin)

theorem readColon_shorter {text rest : List Char}
    (h : readColon text = .ok rest) : rest.length < text.length :=
  length_lt_of_skipBlank (readColon_eq_ok h)

theorem Choice.readName_shorter {α : Type} {choice : Choice α} {text rest : List Char}
    {value : α} (h : choice.readName text = .ok (value, rest)) : rest.length < text.length := by
  obtain ⟨name, hread⟩ := readName_eq_ok h
  exact readString_shorter hread

theorem Choice.readKey_shorter {α : Type} {choice : Choice α} {text rest : List Char} {value : α}
    (h : choice.readKey text = .ok (value, rest)) : rest.length < text.length := by
  obtain ⟨tail, afterName, afterColon, afterNull, hbegin, hname, hcolon, hnull, hend⟩ :=
    readKey_eq_ok h
  calc rest.length
      < afterNull.length := length_lt_of_skipBlank hend
    _ < afterColon.length := readNull_shorter hnull
    _ < afterName.length := readColon_shorter hcolon
    _ < tail.length := readName_shorter hname
    _ < text.length := length_lt_of_skipBlank hbegin

theorem Choice.read_shorter {α : Type} {choice : Choice α} {text rest : List Char} {value : α}
    (h : choice.read text = .ok (value, rest)) : rest.length < text.length := by
  obtain ⟨tail, ⟨hbegin, hname⟩ | ⟨hbegin, hkey⟩⟩ := read_eq_ok h
  · exact Nat.lt_trans (readName_shorter hname) (length_lt_of_skipBlank hbegin)
  · exact Nat.lt_trans (readKey_shorter hkey) (length_lt_of_skipBlank hbegin)

namespace Reader

/-- Whole numbers that fit into 64 bits. -/
def word : Reader UInt64 := ⟨readWord, readWord_shorter⟩

/-- Strings. -/
def text : Reader String := ⟨readText, readText_shorter⟩

/-- Truth values. -/
def bool : Reader Bool := ⟨readBool, readBool_shorter⟩

/-- Values by their names. -/
def choice {α : Type} (choice : Choice α) : Reader α := ⟨choice.read, Choice.read_shorter⟩

end Reader

end EbnfLexer.Json

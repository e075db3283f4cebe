import EbnfLexer.Json.Layout
import EbnfLexer.Json.Strings
import Mathlib.Data.Nat.Notation

/-!
# The ways to write a string

There are up to four ways to write a character in a string: as itself, as an escape of
one letter, as the number of its code unit, and beyond the basic plane as the numbers of
two surrogates (`Spelling`).  However the characters of a string are written, reading
them gives the string back (`readString_spelled`).

By the grammar alone a number in an escape need not belong to any character
(`Letters`).  Such strings cannot be read, but they can be skipped
(`skipString_letters`).  The other way round, what is read as a string is skipped with
the same rest behind it (`skipString_of_readString`).
-/

namespace EbnfLexer.Json

/-! ## The grammar of strings -/

/-- The hexadecimal digits with their values. -/
def hexDigits : List (Char × ℕ) :=
  "0123456789abcdef".toList.zipIdx ++ "ABCDEF".toList.zipIdx 10

/-- The letters of escapes with the characters that they stand for. -/
def shortEscapes : List (Char × Char) :=
  [('"', '"'), ('\\', '\\'), ('/', '/'), ('b', '\x08'), ('f', '\x0c'), ('n', '\n'), ('r', '\r'),
    ('t', '\t')]

/-- A number written with four hexadecimal digits. -/
inductive WritesUnit : List Char → ℕ → Prop where
  | mk {a b c d : Char} {first second third fourth unit : ℕ} (ha : (a, first) ∈ hexDigits)
      (hb : (b, second) ∈ hexDigits) (hc : (c, third) ∈ hexDigits) (hd : (d, fourth) ∈ hexDigits)
      (hunit : ((first * 16 + second) * 16 + third) * 16 + fourth = unit) :
      WritesUnit [a, b, c, d] unit

/-- The ways to write a character in a string. -/
inductive Spelling (c : Char) : List Char → Prop where
  | plain (hquote : c ≠ '"') (hescape : c ≠ '\\') (hcontrol : 0x20 ≤ c.toNat) : Spelling c [c]
  | short {letter : Char} (h : (letter, c) ∈ shortEscapes) : Spelling c ['\\', letter]
  | unit {digits : List Char} (hplane : c.toNat < 0x10000) (h : WritesUnit digits c.toNat) :
      Spelling c ('\\' :: 'u' :: digits)
  /-- A character beyond the basic plane as its two surrogates. -/
  | pair {high low : List Char} (hplane : 0x10000 ≤ c.toNat)
      (hhigh : WritesUnit high (0xD800 + (c.toNat - 0x10000) / 0x400))
      (hlow : WritesUnit low (0xDC00 + (c.toNat - 0x10000) % 0x400)) :
      Spelling c ('\\' :: 'u' :: (high ++ '\\' :: 'u' :: low))

/-- Characters and how they are written one after the other. -/
inductive Spells : List Char → List Char → Prop where
  | nil : Spells [] []
  | cons {c : Char} {text written rest : List Char} (hc : Spelling c written)
      (htext : Spells text rest) : Spells (c :: text) (written ++ rest)

theorem Spells.append {text written others writtenOthers : List Char} (h : Spells text written)
    (hothers : Spells others writtenOthers) :
    Spells (text ++ others) (written ++ writtenOthers) := by
  induction h with
  | nil => exact hothers
  | cons hc _ ih =>
      rw [List.cons_append, List.append_assoc]
      exact .cons hc ih

/-- What may stand in a string by the grammar of JSON. -/
inductive Letters : List Char → Prop where
  | nil : Letters []
  | plain {c : Char} {rest : List Char} (hquote : c ≠ '"') (hescape : c ≠ '\\')
      (hcontrol : 0x20 ≤ c.toNat) (hrest : Letters rest) : Letters (c :: rest)
  | short {letter c : Char} {rest : List Char} (h : (letter, c) ∈ shortEscapes)
      (hrest : Letters rest) : Letters ('\\' :: letter :: rest)
  | unit {digits rest : List Char} {unit : ℕ} (h : WritesUnit digits unit)
      (hrest : Letters rest) : Letters ('\\' :: 'u' :: (digits ++ rest))

theorem Letters.append_spelling {c : Char} {written rest : List Char} (h : Spelling c written)
    (hrest : Letters rest) : Letters (written ++ rest) := by
  cases h with
  | plain hquote hescape hcontrol => exact .plain hquote hescape hcontrol hrest
  | short h => exact .short h hrest
  | unit _ h => exact .unit h hrest
  | pair _ hhigh hlow =>
      rw [List.cons_append, List.cons_append, List.append_assoc]
      exact .unit hhigh (.unit hlow hrest)

/-- A string that is written by its characters is one by the grammar. -/
theorem Spells.letters {text written : List Char} (h : Spells text written) : Letters written := by
  induction h with
  | nil => exact .nil
  | cons hc _ ih => exact ih.append_spelling hc

/-! ## Escapes -/

theorem hexValue?_of_mem {c : Char} {value : ℕ} (h : (c, value) ∈ hexDigits) :
    hexValue? c = some value := by
  have hall : hexDigits.all (fun digit => hexValue? digit.1 == some digit.2) = true := by
    decide +kernel
  exact eq_of_beq (List.all_eq_true.mp hall (c, value) h)

theorem shortEscape?_of_mem {letter c : Char} (h : (letter, c) ∈ shortEscapes) :
    shortEscape? letter = some c := by
  have hall : shortEscapes.all (fun escape => shortEscape? escape.1 == some escape.2) = true := by
    decide +kernel
  exact eq_of_beq (List.all_eq_true.mp hall (letter, c) h)

/-- Four hexadecimal digits are taken in together. -/
theorem readUnit_written {digits : List Char} {unit : ℕ} (h : WritesUnit digits unit)
    (rest : List Char) : readUnit (digits ++ rest) = .ok (unit, rest) := by
  obtain @⟨a, b, c, d, _, _, _, _, unit, ha, hb, hc, hd, hvalue⟩ := h
  have hlong : ¬byteCount (a :: b :: c :: d :: rest) < 4 := by
    have := a.utf8Size_pos
    have := b.utf8Size_pos
    have := c.utf8Size_pos
    have := d.utf8Size_pos
    simp only [byteCount]
    omega
  have hunit : unitValue? a b c d = some unit := by
    simp only [unitValue?, hexValue?_of_mem ha, hexValue?_of_mem hb, hexValue?_of_mem hc,
      hexValue?_of_mem hd, Option.bind_eq_bind, Option.bind_some, Option.pure_def, hvalue]
  rw [List.cons_append, List.cons_append, List.cons_append, List.cons_append, List.nil_append,
    readUnit, if_neg hlong]
  simp only [hunit]

/-- The number of a character is no surrogate. -/
theorem readCodePoint_toNat (c : Char) (rest : List Char) :
    readCodePoint c.toNat rest = .ok (c, rest) := by
  have hvalid : c.toNat < 0xD800 ∨ 0xDFFF < c.toNat ∧ c.toNat < 0x110000 := c.valid
  rw [readCodePoint, if_neg (by omega), if_neg (by omega), Char.ofNat_toNat]
  rfl

/-- Two surrogates are put together again. -/
theorem readCodePoint_pair {c : Char} {low : List Char} (hplane : 0x10000 ≤ c.toNat)
    (hlow : WritesUnit low (0xDC00 + (c.toNat - 0x10000) % 0x400)) (rest : List Char) :
    readCodePoint (0xD800 + (c.toNat - 0x10000) / 0x400) ('\\' :: 'u' :: (low ++ rest)) =
      .ok (c, rest) := by
  have hvalid : c.toNat < 0xD800 ∨ 0xDFFF < c.toNat ∧ c.toNat < 0x110000 := c.valid
  have hunit := readUnit_written hlow rest
  -- Both numbers are surrogates, and the parts of the character fit together again.
  have hpoint : 0x10000 + (0xD800 + (c.toNat - 0x10000) / 0x400 - 0xD800) * 0x400 +
      (0xDC00 + (c.toNat - 0x10000) % 0x400 - 0xDC00) = c.toNat := by omega
  rw [readCodePoint, if_neg (by omega), if_pos (by omega)]
  simp only [readPairing, if_pos, bind, Except.bind, hunit]
  rw [if_pos (by omega), hpoint, Char.ofNat_toNat]
  rfl

theorem readEscape_short {letter c : Char} (h : (letter, c) ∈ shortEscapes) (rest : List Char) :
    readEscape (letter :: rest) = .ok (c, rest) := by
  simp only [readEscape, shortEscape?_of_mem h]

theorem readEscape_unit {digits rest after : List Char} {unit : ℕ} {c : Char}
    (h : WritesUnit digits unit) (hpoint : readCodePoint unit rest = .ok (c, after)) :
    readEscape ('u' :: (digits ++ rest)) = .ok (c, after) := by
  have hshort : shortEscape? 'u' = none := rfl
  simp only [readEscape, hshort, if_pos, readUnit_written h, hpoint]

theorem skipEscape_short {letter c : Char} (h : (letter, c) ∈ shortEscapes) (rest : List Char) :
    skipEscape (letter :: rest) = .ok rest := by
  simp only [skipEscape, shortEscape?_of_mem h, Option.isSome_some, if_pos]

theorem skipEscape_of_readUnit {text rest : List Char} {unit : ℕ}
    (h : readUnit text = .ok (unit, rest)) : skipEscape ('u' :: text) = .ok rest := by
  have hshort : ¬(shortEscape? 'u').isSome := by decide
  rw [skipEscape, if_neg hshort, if_pos rfl, h]
  rfl

/-! ## Strings that are read -/

theorem readStringFrom_quote (read : String) (rest : List Char) :
    readStringFrom read ('"' :: rest) = .ok (read, rest) := by
  rw [readStringFrom]
  rfl

theorem readStringFrom_plain {c : Char} (hquote : c ≠ '"') (hescape : c ≠ '\\')
    (hcontrol : ¬c.toNat < 0x20) (read : String) (rest : List Char) :
    readStringFrom read (c :: rest) = readStringFrom (read.push c) rest := by
  rw [readStringFrom, if_neg hquote, if_neg hescape, if_neg hcontrol]

theorem readStringFrom_escape {c : Char} {text rest : List Char}
    (h : readEscape text = .ok (c, rest)) (read : String) :
    readStringFrom read ('\\' :: text) = readStringFrom (read.push c) rest := by
  rw [readStringFrom, if_neg (by decide), if_pos rfl]
  split
  · next hread =>
    rw [h] at hread
    cases hread
    rfl
  · next hread =>
    rw [h] at hread
    contradiction

/-- A written character is taken in as it stands. -/
theorem readStringFrom_spelling {c : Char} {written : List Char} (h : Spelling c written)
    (read : String) (rest : List Char) :
    readStringFrom read (written ++ rest) = readStringFrom (read.push c) rest := by
  cases h with
  | plain hquote hescape hcontrol =>
      exact readStringFrom_plain hquote hescape (Nat.not_lt.mpr hcontrol) read rest
  | short h => exact readStringFrom_escape (readEscape_short h rest) read
  | unit _ h =>
      exact readStringFrom_escape (readEscape_unit h (readCodePoint_toNat c rest)) read
  | pair hplane hhigh hlow =>
      rw [List.cons_append, List.cons_append, List.append_assoc]
      exact readStringFrom_escape
        (readEscape_unit hhigh (readCodePoint_pair hplane hlow rest)) read

theorem readStringFrom_spelled {text written : List Char} (h : Spells text written)
    (read : String) (rest : List Char) :
    readStringFrom read (written ++ '"' :: rest) = .ok (read ++ String.ofList text, rest) := by
  induction h generalizing read with
  | nil =>
      rw [List.nil_append, readStringFrom_quote, String.ofList_nil, String.append_empty]
  | cons hc _ ih =>
      rw [List.append_assoc, readStringFrom_spelling hc, ih, Except.ok.injEq, Prod.mk.injEq]
      refine ⟨?_, rfl⟩
      rw [← String.toList_inj]
      simp

/-- A string is read back however its characters are written. -/
theorem readString_spelled {text : String} {written : List Char} (h : Spells text.toList written)
    (rest : List Char) : readString (written ++ '"' :: rest) = .ok (text, rest) := by
  rw [readString, readStringFrom_spelled h, String.empty_append, String.ofList_toList]

/-! ## Strings that are skipped -/

theorem skipString_quote (rest : List Char) : skipString ('"' :: rest) = .ok rest := by
  rw [skipString]
  rfl

theorem skipString_plain {c : Char} (hquote : c ≠ '"') (hescape : c ≠ '\\')
    (hcontrol : ¬c.toNat < 0x20) (rest : List Char) : skipString (c :: rest) = skipString rest := by
  rw [skipString, if_neg hquote, if_neg hescape, if_neg hcontrol]

theorem skipString_escape {text rest : List Char} (h : skipEscape text = .ok rest) :
    skipString ('\\' :: text) = skipString rest := by
  rw [skipString, if_neg (by decide), if_pos rfl]
  split
  · next hskip =>
    rw [h] at hskip
    cases hskip
    rfl
  · next hskip =>
    rw [h] at hskip
    contradiction

/-- A string by the grammar is skipped, whatever its escapes stand for. -/
theorem skipString_letters {written : List Char} (h : Letters written) (rest : List Char) :
    skipString (written ++ '"' :: rest) = .ok rest := by
  induction h with
  | nil => exact skipString_quote rest
  | plain hquote hescape hcontrol _ ih =>
      rw [List.cons_append, skipString_plain hquote hescape (Nat.not_lt.mpr hcontrol), ih]
  | short h _ ih =>
      rw [List.cons_append, List.cons_append, skipString_escape (skipEscape_short h _), ih]
  | unit h _ ih =>
      rw [List.cons_append, List.cons_append, List.append_assoc,
        skipString_escape (skipEscape_of_readUnit (readUnit_written h _)), ih]

/-- An escape that is read is one escape or, for a pair of surrogates, two of them. -/
theorem skipString_of_readEscape {text rest : List Char} {c : Char}
    (h : readEscape text = .ok (c, rest)) : skipString ('\\' :: text) = skipString rest := by
  rcases readEscape_eq_ok h with ⟨letter, rfl, hshort⟩ | ⟨unit, tail, after, rfl, hunit, hpoint⟩
  · refine skipString_escape ?_
    rw [skipEscape, hshort]
    rfl
  · rw [skipString_escape (skipEscape_of_readUnit hunit)]
    -- Skipping knows no pairs, so the second surrogate is one more escape to it.
    rcases readCodePoint_eq_ok hpoint with rfl | ⟨second, low, rfl, hsecond⟩
    · rfl
    · exact skipString_escape (skipEscape_of_readUnit hsecond)

theorem skipString_of_readStringFrom {read string : String} {text rest : List Char}
    (h : readStringFrom read text = .ok (string, rest)) : skipString text = .ok rest := by
  fun_induction readStringFrom read text with
  | case1 => contradiction
  | case2 => cases h; exact skipString_quote _
  | case3 read tail c after hescape _ _ ih =>
      rw [skipString_of_readEscape hescape]
      exact ih h
  | case4 => contradiction
  | case5 => contradiction
  | case6 read c tail hquote hescape hcontrol ih =>
      rw [skipString_plain hquote hescape hcontrol]
      exact ih h

/-- What is read as a string is skipped as a string. -/
theorem skipString_of_readString {string : String} {text rest : List Char}
    (h : readString text = .ok (string, rest)) : skipString text = .ok rest :=
  skipString_of_readStringFrom h

/-! ## Written strings -/

theorem mem_hexDigits_hexDigit {value : ℕ} (h : value < 16) :
    (hexDigit value, value) ∈ hexDigits := by
  have hall : ∀ value < 16, hexDigits.contains (hexDigit value, value) = true := by decide +kernel
  exact List.contains_iff_mem.mp (hall value h)

/-- Characters are written in one of the ways to write them. -/
theorem spelling_escaped (c : Char) : Spelling c (escaped c) := by
  unfold escaped
  split
  case h_8 hquote hescape _ _ _ _ _ =>
    split
    case isTrue hcontrol =>
      have hunit : WritesUnit ['0', '0', hexDigit (c.toNat / 16), hexDigit (c.toNat % 16)]
          c.toNat := by
        have hzero : ('0', 0) ∈ hexDigits := List.contains_iff_mem.mp (by decide +kernel)
        exact .mk hzero hzero (mem_hexDigits_hexDigit (by omega))
          (mem_hexDigits_hexDigit (by omega)) (by omega)
      exact .unit (by omega) hunit
    case isFalse hcontrol => exact .plain hquote hescape (Nat.le_of_not_lt hcontrol)
  -- The others have an escape of one letter.
  all_goals exact .short (List.contains_iff_mem.mp (by decide))

theorem spells_escaped (text : List Char) : Spells text (text.flatMap escaped) := by
  induction text with
  | nil => exact .nil
  | cons c rest ih => exact .cons (spelling_escaped c) ih

end EbnfLexer.Json

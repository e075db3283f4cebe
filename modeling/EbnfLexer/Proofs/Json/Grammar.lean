import EbnfLexer.Proofs.Json.Parts

/-!
# Values by the grammar of JSON

`Grammar.Value` is the grammar of JSON: words, numbers, strings, and lists and objects of
any values, with blanks wherever they may stand.  It asks nothing of a value that a
reader would: numbers may be of any size, and escapes need not stand for characters.

A value by the grammar is skipped as it stands (`skipValue_written`).  Skipping keeps the
brackets around the present place in a list, so what is to be shown of a value is that
skipping goes on behind it with the same brackets (`skipFrom_value`).  Lists and objects
are alike in this: their parts are passed over one after the other, and all that is
different is that a key stands before the parts of an object (`Passes`).
-/

namespace EbnfLexer.Json

namespace Grammar

/-- A key, with the colon behind it and the blanks around the colon. -/
inductive Key : List Char → Prop where
  | mk {letters before after : List Char} (hletters : Letters letters) (hbefore : Blank before)
      (hafter : Blank after) : Key ('"' :: (letters ++ '"' :: (before ++ ':' :: after)))

/-- A value of any nesting. -/
inductive Value : List Char → Prop where
  | wordNull : Value ['n', 'u', 'l', 'l']
  | wordTrue : Value ['t', 'r', 'u', 'e']
  | wordFalse : Value ['f', 'a', 'l', 's', 'e']
  | number {text : List Char} (h : Grammar.Number text) : Value text
  | string {letters : List Char} (h : Letters letters) : Value ('"' :: (letters ++ ['"']))
  | list {parts : List (List Char)} {text : List Char} (htext : Between parts text)
      (hparts : ∀ part ∈ parts, Value part) : Value ('[' :: (text ++ [']']))
  /-- The parts of an object are keys, each with a value behind it. -/
  | object {entries : List (List Char × List Char)} {text : List Char}
      (htext : Between (entries.map fun entry => entry.1 ++ entry.2) text)
      (hkeys : ∀ entry ∈ entries, Key entry.1) (hvalues : ∀ entry ∈ entries, Value entry.2) :
      Value ('{' :: (text ++ ['}']))

/-- A value begins with a character that is no blank and closes no bracket. -/
theorem Value.eq_cons {text : List Char} (h : Value text) :
    ∃ c rest, text = c :: rest ∧ isBlank c = false ∧ c ≠ ']' ∧ c ≠ '}' := by
  cases h with
  | wordNull | wordTrue | wordFalse | string _ | list _ _ | object _ _ _ =>
      exact ⟨_, _, rfl, by decide, by decide, by decide⟩
  | number h =>
      obtain ⟨c, rest, rfl, hc⟩ := h.eq_cons
      refine ⟨c, rest, rfl, ?_, ?_, ?_⟩
      · cases hblank : isBlank c with
        | false => rfl
        | true =>
            simp only [isBlank, Bool.or_eq_true, beq_iff_eq] at hblank
            rcases hblank with ((rfl | rfl) | rfl) | rfl <;> exact absurd hc (by decide)
      · rintro rfl
        exact absurd hc (by decide)
      · rintro rfl
        exact absurd hc (by decide)

theorem Key.eq_cons {key : List Char} (h : Key key) : ∃ rest, key = '"' :: rest := by
  cases h
  exact ⟨_, rfl⟩

end Grammar

open Grammar

/-! ## Steps of skipping -/

variable {brackets : List Bracket} {bracket : Bracket} {text rest : List Char}

theorem skipFrom_of_beginning (h : skipBeginning text = .ok (none, rest)) :
    skipFrom brackets .nothing text = skipFrom brackets .value rest := by
  conv => lhs; rw [skipFrom]
  split
  · next hread => rw [h] at hread; cases hread
  · next hread => rw [h] at hread; cases hread; rfl
  · next hread => rw [h] at hread; cases hread

theorem skipFrom_of_opening (h : skipBeginning text = .ok (some bracket, rest)) :
    skipFrom brackets .nothing text = skipFrom (bracket :: brackets) .opening rest := by
  conv => lhs; rw [skipFrom]
  split
  · next hread => rw [h] at hread; cases hread
  · next hread => rw [h] at hread; cases hread
  · next hread => rw [h] at hread; cases hread; rfl

theorem skipFrom_value_nil (text : List Char) : skipFrom [] .value text = .ok text := by
  rw [skipFrom]
  simp

theorem skipFrom_value_closing (h : skipBlank text = bracket.closing :: rest) :
    skipFrom (bracket :: brackets) .value text = skipFrom brackets .value rest := by
  have hcomma : bracket.closing ≠ ',' := by cases bracket <;> decide
  conv => lhs; rw [skipFrom]
  split
  · next hskip => rw [h] at hskip; cases hskip
  · next hskip =>
    rw [h] at hskip
    cases hskip
    rw [if_neg hcomma, if_pos rfl]

theorem skipFrom_value_comma {begun : List Char} (h : skipBlank text = ',' :: rest)
    (hkey : skipKey bracket rest = .ok begun) :
    skipFrom (bracket :: brackets) .value text =
      skipFrom (bracket :: brackets) .nothing begun := by
  conv => lhs; rw [skipFrom]
  split
  · next hskip => rw [h] at hskip; cases hskip
  · next hskip =>
    rw [h] at hskip
    cases hskip
    rw [if_pos rfl]
    split
    · next hread => rw [hkey] at hread; cases hread
    · next hread => rw [hkey] at hread; cases hread; rfl

theorem skipFrom_opening_closing (h : skipBlank text = bracket.closing :: rest) :
    skipFrom (bracket :: brackets) .opening text = skipFrom brackets .value rest := by
  conv => lhs; rw [skipFrom]
  split
  · next hskip => rw [h] at hskip; cases hskip
  · next hskip =>
    rw [h] at hskip
    cases hskip
    rw [if_pos rfl]

theorem skipFrom_opening_part {c : Char} {begun : List Char} (h : skipBlank text = c :: rest)
    (hc : c ≠ bracket.closing) (hkey : skipKey bracket text = .ok begun) :
    skipFrom (bracket :: brackets) .opening text =
      skipFrom (bracket :: brackets) .nothing begun := by
  conv => lhs; rw [skipFrom]
  split
  · next hskip => rw [h] at hskip; cases hskip
  · next hskip =>
    rw [h] at hskip
    cases hskip
    rw [if_neg hc]
    split
    · next hread => rw [hkey] at hread; cases hread
    · next hread => rw [hkey] at hread; cases hread; rfl

/-! ## Parts of a bracket -/

/-- A part of a bracket that is passed over as it stands. -/
structure Passes (bracket : Bracket) (part : List Char) : Prop where
  begins : ∃ c tail, part = c :: tail ∧ isBlank c = false ∧ c ≠ bracket.closing
  passes : ∀ (brackets : List Bracket) (blanks rest : List Char), Blank blanks → Ends rest →
    ∃ begun, skipKey bracket (blanks ++ (part ++ rest)) = .ok begun ∧
      skipFrom (bracket :: brackets) .nothing begun = skipFrom (bracket :: brackets) .value rest

theorem Further.ends_closing {parts : List (List Char)} (h : Further parts text)
    (bracket : Bracket) (rest : List Char) : Ends (text ++ bracket.closing :: rest) :=
  h.ends (by cases bracket <;> decide) rest

theorem skipBlank_closing {blanks : List Char} (h : Blank blanks) (bracket : Bracket)
    (rest : List Char) :
    skipBlank (blanks ++ bracket.closing :: rest) = bracket.closing :: rest := by
  rw [skipBlank_append h, skipBlank_cons (by cases bracket <;> decide)]

/-- The parts behind the first one are passed over, and then the bracket is closed. -/
theorem skipFrom_further {parts : List (List Char)} (htext : Further parts text)
    (hparts : ∀ part ∈ parts, Passes bracket part) (brackets : List Bracket) (rest : List Char) :
    skipFrom (bracket :: brackets) .value (text ++ bracket.closing :: rest) =
      skipFrom brackets .value rest := by
  induction htext with
  | done hblanks => exact skipFrom_value_closing (skipBlank_closing hblanks bracket rest)
  | @next before after part text parts hbefore hafter htext ih =>
      obtain ⟨hpart, hothers⟩ := List.forall_mem_cons.mp hparts
      obtain ⟨begun, hkey, hpasses⟩ :=
        hpart.passes brackets after _ hafter (htext.ends_closing bracket rest)
      have hcomma : skipBlank (before ++ ',' :: (after ++ (part ++ text)) ++
            bracket.closing :: rest) =
          ',' :: (after ++ (part ++ (text ++ bracket.closing :: rest))) := by
        rw [List.append_assoc, skipBlank_append hbefore, List.cons_append,
          skipBlank_cons (by decide)]
        simp
      rw [skipFrom_value_comma hcomma hkey, hpasses]
      exact ih hothers

/-- All parts of a bracket are passed over from its opening on. -/
theorem skipFrom_between {parts : List (List Char)} (htext : Between parts text)
    (hparts : ∀ part ∈ parts, Passes bracket part) (brackets : List Bracket) (rest : List Char) :
    skipFrom (bracket :: brackets) .opening (text ++ bracket.closing :: rest) =
      skipFrom brackets .value rest := by
  cases htext with
  | none hblanks => exact skipFrom_opening_closing (skipBlank_closing hblanks bracket rest)
  | @some before part text parts hbefore htext =>
      obtain ⟨hpart, hothers⟩ := List.forall_mem_cons.mp hparts
      obtain ⟨c, tail, rfl, hc, hclosing⟩ := hpart.begins
      obtain ⟨begun, hkey, hpasses⟩ :=
        hpart.passes brackets before _ hbefore (htext.ends_closing bracket rest)
      have hfirst : skipBlank (before ++ (c :: tail ++ (text ++ bracket.closing :: rest))) =
          c :: (tail ++ (text ++ bracket.closing :: rest)) := by
        rw [skipBlank_append hbefore, List.cons_append, skipBlank_cons hc]
      rw [List.append_assoc, List.append_assoc, skipFrom_opening_part hfirst hclosing hkey, hpasses]
      exact skipFrom_further htext hothers brackets rest

/-! ## Values -/

/-- A key is skipped up to the blanks behind its colon. -/
theorem skipKey_object {key blanks : List Char} (h : Key key) (hblanks : Blank blanks)
    (rest : List Char) :
    ∃ after, Blank after ∧ skipKey .object (blanks ++ (key ++ rest)) = .ok (after ++ rest) := by
  obtain @⟨letters, before, after, hletters, hbefore, hafter⟩ := h
  refine ⟨after, hafter, ?_⟩
  have hshape : '"' :: (letters ++ '"' :: (before ++ ':' :: after)) ++ rest =
      '"' :: (letters ++ '"' :: (before ++ ':' :: (after ++ rest))) := by simp
  rw [hshape, skipKey, skipBlank_append hblanks, skipBlank_cons (by decide)]
  simp only [if_pos, skipString_letters hletters, bind, Except.bind, readColon_written hbefore]

theorem skipBeginning_number {text blanks : List Char} (h : Grammar.Number text)
    (hblanks : Blank blanks) (hrest : Ends rest) :
    skipBeginning (blanks ++ (text ++ rest)) = .ok (none, rest) := by
  obtain ⟨c, tail, rfl, hblank, _⟩ := (Value.number h).eq_cons
  obtain ⟨first, others, hfirst, hc⟩ := h.eq_cons
  obtain ⟨rfl, rfl⟩ := List.cons.inj hfirst
  obtain ⟨numeral, hnumeral⟩ := readNumeral_written h .invalidNumber hrest
  -- The beginning of a number is none of the letters that are looked for before.
  have hletter : ∀ letter : Char, letter ≠ '-' → letter.isDigit = false → c ≠ letter := by
    rintro letter hminus hdigit rfl
    rcases hc with rfl | hc
    · exact hminus rfl
    · rw [hdigit] at hc
      contradiction
  rw [List.cons_append] at hnumeral ⊢
  rw [skipBeginning, skipBlank_append hblanks, skipBlank_cons hblank]
  dsimp only
  rw [if_neg (hletter 'n' (by decide) (by decide)), if_neg (hletter 't' (by decide) (by decide)),
    if_neg (hletter 'f' (by decide) (by decide)), if_pos hc, hnumeral]
  rfl

theorem skipBeginning_string {letters blanks : List Char} (h : Letters letters)
    (hblanks : Blank blanks) (rest : List Char) :
    skipBeginning (blanks ++ ('"' :: (letters ++ ['"']) ++ rest)) = .ok (none, rest) := by
  have hshape : '"' :: (letters ++ ['"']) ++ rest = '"' :: (letters ++ '"' :: rest) := by simp
  have hdigit : ¬('"' = '-' ∨ '"'.isDigit) := by decide
  rw [hshape, skipBeginning, skipBlank_append hblanks, skipBlank_cons (by decide)]
  dsimp only
  rw [if_neg (by decide), if_neg (by decide), if_neg (by decide), if_neg hdigit, if_pos rfl,
    skipString_letters h]
  rfl

/-- A value is passed over as it stands, whatever brackets are around it. -/
theorem skipFrom_value {value : List Char} (h : Value value) (brackets : List Bracket)
    {blanks rest : List Char} (hblanks : Blank blanks) (hrest : Ends rest) :
    skipFrom brackets .nothing (blanks ++ (value ++ rest)) = skipFrom brackets .value rest := by
  induction h generalizing brackets blanks rest with
  | wordNull | wordTrue | wordFalse =>
      refine skipFrom_of_beginning ?_
      rw [skipBeginning, skipBlank_append hblanks, List.cons_append, skipBlank_cons (by decide)]
      rfl
  | number h => exact skipFrom_of_beginning (skipBeginning_number h hblanks hrest)
  | string h => exact skipFrom_of_beginning (skipBeginning_string h hblanks rest)
  | @list parts text htext hparts ih =>
      have hopening : skipBeginning (blanks ++ ('[' :: (text ++ [']']) ++ rest)) =
          .ok (some .list, text ++ ']' :: rest) := by
        rw [skipBeginning, skipBlank_append hblanks, List.cons_append, skipBlank_cons (by decide)]
        simp
      rw [skipFrom_of_opening hopening]
      refine skipFrom_between htext ?_ brackets rest
      intro part hpart
      -- The induction is for any brackets, here for those that the part has around it.
      obtain ⟨c, tail, heq, hc, hclosing, _⟩ := (hparts part hpart).eq_cons
      refine ⟨⟨c, tail, heq, hc, hclosing⟩, ?_⟩
      intro brackets blanks rest hblanks hrest
      exact ⟨_, rfl, ih part hpart _ hblanks hrest⟩
  | @object entries text htext hkeys hvalues ih =>
      have hopening : skipBeginning (blanks ++ ('{' :: (text ++ ['}']) ++ rest)) =
          .ok (some .object, text ++ '}' :: rest) := by
        rw [skipBeginning, skipBlank_append hblanks, List.cons_append, skipBlank_cons (by decide)]
        simp
      rw [skipFrom_of_opening hopening]
      refine skipFrom_between htext ?_ brackets rest
      intro part hpart
      obtain ⟨entry, hentry, rfl⟩ := List.mem_map.mp hpart
      have hkey := hkeys entry hentry
      refine ⟨?_, ?_⟩
      · obtain ⟨tail, htail⟩ := hkey.eq_cons
        exact ⟨'"', tail ++ entry.2, by rw [htail]; rfl, by decide, by decide⟩
      · intro brackets blanks rest hblanks hrest
        rw [List.append_assoc]
        obtain ⟨after, hafter, hskip⟩ := skipKey_object hkey hblanks (entry.2 ++ rest)
        exact ⟨_, hskip, ih entry hentry _ hafter hrest⟩

/-- A value by the grammar is skipped as it stands. -/
theorem skipValue_written {value blanks rest : List Char} (h : Value value)
    (hblanks : Blank blanks) (hrest : Ends rest) :
    skipValue (blanks ++ (value ++ rest)) = .ok rest := by
  rw [skipValue, skipFrom_value h [] hblanks hrest, skipFrom_value_nil]

end EbnfLexer.Json

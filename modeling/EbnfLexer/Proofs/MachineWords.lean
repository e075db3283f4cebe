import EbnfLexer.Proofs.Session

/-!
# Machine words count far enough

A run numbers lines, columns and tokens in machine words, which return to zero
when they overflow.  For lines and columns it is plain how far they go.  The number
of tokens is another matter, since one sign can end a text and be a token itself,
and the end of a line can yield a token without having a character.  What bounds it
is that every token has a column of its own: a text begins at a character that was
kept of it, and no two tokens of a line begin at the same place.  So a line has no
more tokens than it has characters to scan (`Lexer.size_feed_fed_le`), and a lexer
has never counted more tokens than it was fed characters.

Below that bound the words of a run show the numbers of a run that counts without
end (`shown_answers`), and the number of the next token is never zero
(`Lexer.nextId_fed_ne_zero`).
-/

namespace EbnfLexer

open Counter Scan TwoPass

section

variable {ν : Type} [Counter ν]

namespace Lexer

/-- Every counter counts as many tokens in some lines as there are. -/
theorem fed_eq_between_nat (lines : List String) :
    (fed lines : Lexer ν) =
      between (Literal.after none (lines.flatMap String.toList)) lines.length
        (placed none 1 lines : List (ℕ × Lexeme ℕ)).length := by
  rw [fed_eq_between, map_counted_placed, List.length_map]

theorem fed_append (lines others : List String) :
    (fed (lines ++ others) : Lexer ν) = ((fed lines).feedAll others).2 := by
  rw [fed, feedAll_append, fed]

/-- A line has no more tokens than characters that are scanned. -/
theorem size_feed_fed_le (lines : List String) (line : String) :
    ((fed lines : Lexer ν).feed line).1.size ≤ (stripped line).length := by
  rw [fed_eq_between, feed_between, List.size_toArray, length_numbered, placed_cons, placed_nil,
    List.append_nil, List.length_map, map_counted_lexemes, List.length_map]
  exact length_lexemes_marks_le _ 1 (stripped line)

/-- Every counter shows the same tokens for further lines. -/
theorem map_counted_feedAll_between (quote : Option Char) (taken emitted : ℕ)
    (lines : List String) :
    ((between quote taken emitted : Lexer ν).feedAll lines).1 =
      ((between quote taken emitted).feedAll lines).1.map Token.counted := by
  rw [feedAll_between, feedAll_between, map_counted_placed, map_counted_numbered, List.map_toArray]

/-- Every counter shows the same answers to calls. -/
theorem map_counted_answers_fed (lines : List String) (calls : List Call) :
    ((fed lines : Lexer ν).answers calls).1 =
      ((fed lines).answers calls).1.map (Array.map Token.counted) := by
  induction calls generalizing lines with
  | nil => rfl
  | cons call calls ih =>
      have hcall : ((fed lines : Lexer ν).answer call).1 =
          ((fed lines).answer call).1.map Token.counted := by
        rw [answer_eq_feedAll, answer_eq_feedAll, fed_eq_between_nat, fed_eq_between_nat,
          map_counted_feedAll_between]
      have hothers := ih (lines ++ call.fed)
      rw [fed_append, fed_append, ← answer_eq_feedAll, ← answer_eq_feedAll] at hothers
      rw [answers, answers, List.map_cons, ← hcall, ← hothers]

end Lexer

theorem emitted_session [Add ν] [LawfulAdd ν] (calls : List Call) :
    (session ν calls).2.emitted =
      count (placed none 1 (fedLines calls) : List (ℕ × Lexeme ℕ)).length := by
  rw [session_eq, Lexer.fed_eq_between_nat, Lexer.emitted_between]

theorem length_placed_le_length_join (lines : List String) :
    (placed none 1 lines : List (ℕ × Lexeme ℕ)).length ≤ (String.join lines).length := by
  rw [length_join_eq]
  exact length_placed_le none 1 lines

/-- A counter that can count the lines and the characters of a session shows its answers as they
are. -/
theorem shown_answers {calls : List Call} {bound : ℕ} (hfaithful : Faithful ν bound)
    (hlines : (fedLines calls).length ≤ bound)
    (hcharacters : (String.join (fedLines calls)).length ≤ bound) :
    ((Lexer.start : Lexer ν).answers calls).1.map (Array.map Token.shown) =
      ((Lexer.start : Lexer ℕ).answers calls).1 := by
  have hshown : ∀ token ∈ (session ℕ calls).1, (token.counted : Token ν).shown = token := by
    have hemitted := (length_placed_le_length_join (fedLines calls)).trans hcharacters
    rw [session_eq]
    refine (wellPlaced_nat (fedLines calls)).shown_counted hfaithful hemitted hlines ?_
    intro line hline
    exact (length_stripped_le_length_join hline).trans hcharacters
  have hcounted : ((Lexer.start : Lexer ν).answers calls).1 =
      ((Lexer.start : Lexer ℕ).answers calls).1.map (Array.map Token.counted) :=
    Lexer.map_counted_answers_fed [] calls
  have hsame : ∀ tokens ∈ ((Lexer.start : Lexer ℕ).answers calls).1,
      (tokens.map (Token.counted : Token ℕ → Token ν)).map Token.shown = tokens := by
    intro tokens htokens
    -- The tokens of an answer are among those of the session, whose numbers the bound covers.
    rw [Array.map_map]
    refine (Array.map_congr_left ?_).trans (Array.map_id tokens)
    intro token htoken
    exact hshown token (List.mem_flatMap.mpr ⟨tokens, htokens, Array.mem_toList_iff.mpr htoken⟩)
  rw [hcounted, List.map_map]
  exact (List.map_congr_left hsame).trans (List.map_id _)

end

/-! ## Words -/

/-- Words show all numbers below their size. -/
theorem faithful_words : Faithful UInt64 (UInt64.size - 1) :=
  faithful_uint64 (Nat.sub_lt (by decide) Nat.one_pos)

/-- The number of the next token is not zero as long as the characters so far can be counted with
one to spare. -/
theorem Lexer.nextId_fed_ne_zero {lines : List String}
    (h : (String.join lines).length < UInt64.size - 1) : (fed lines : Lexer UInt64).nextId ≠ 0 := by
  have hemitted := length_placed_le_length_join lines
  rw [fed_eq_between_nat]
  exact faithful_words.count_ne (by omega) (Nat.zero_le _) (Nat.succ_ne_zero _)

/-- A token has no number zero as long as lines and characters can be counted. -/
theorem id_ne_zero_of_mem_tokenize {lines : List String} (hlines : lines.length < UInt64.size)
    (hcharacters : (String.join lines).length < UInt64.size) {token : Token UInt64}
    (h : token ∈ tokenize lines) : token.id ≠ 0 := by
  intro hzero
  have hid : token.id.toNat ∈ (tokenize lines : List (Token UInt64)).map fun token =>
      Counter.toNat token.id := List.mem_map_of_mem h
  rw [(wellPlaced_uint64 hlines hcharacters).ids, hzero] at hid
  exact absurd (List.mem_range'_1.mp hid).1 (by decide)

/-- **Counters never wrap.**  A line has no more tokens than characters that are scanned, and so a
lexer has never counted more tokens than it was fed characters.  Therefore, as long as the lines
and the characters of a session can be counted in words with one to spare, it answers every call in
words with the tokens that it has in natural numbers, and counts as many.  The number zero is never
given to a token, nor is it ever next. -/
theorem counters_never_wrap (calls : List Call) :
    (∀ line, ((session ℕ calls).2.feed line).1.size ≤ (stripped line).length ∧
      ((session UInt64 calls).2.feed line).1.size ≤ (stripped line).length) ∧
    (session ℕ calls).2.emitted ≤ (String.join (fedLines calls)).length ∧
    (session UInt64 calls).2.emitted.toNat ≤ (String.join (fedLines calls)).length ∧
    ((fedLines calls).length < UInt64.size - 1 →
      (String.join (fedLines calls)).length < UInt64.size - 1 →
      ((Lexer.start : Lexer UInt64).answers calls).1.map (Array.map Token.shown) =
          ((Lexer.start : Lexer ℕ).answers calls).1 ∧
        (session UInt64 calls).2.emitted.toNat = (session ℕ calls).2.emitted ∧
        (∀ token ∈ (session UInt64 calls).1, token.id ≠ 0) ∧
        ∀ front, front <+: fedLines calls → (Lexer.fed front : Lexer UInt64).nextId ≠ 0) := by
  set lines := fedLines calls
  set found : List (ℕ × Lexeme ℕ) := placed none 1 lines
  have hfound : found.length ≤ (String.join lines).length := length_placed_le_length_join lines
  have hnat : (session ℕ calls).2.emitted = found.length := by rw [emitted_session, count_nat]
  have hwords : (session UInt64 calls).2.emitted = count found.length := emitted_session calls
  refine ⟨?size, hnat ▸ hfound, ?words, ?same⟩
  case size =>
    intro line
    rw [session_eq, session_eq]
    exact ⟨Lexer.size_feed_fed_le lines line, Lexer.size_feed_fed_le lines line⟩
  case words =>
    -- A count in words is never more than the number counted, wrapped or not.
    rw [hwords, count_uint64]
    exact (Nat.mod_le _ _).trans hfound
  case same =>
    intro hlines hcharacters
    refine ⟨shown_answers faithful_words hlines.le hcharacters.le, ?emitted, ?ids, ?next⟩
    case emitted =>
      rw [hwords, hnat]
      exact faithful_words found.length (hfound.trans hcharacters.le)
    case ids =>
      intro token htoken
      rw [session_eq] at htoken
      exact id_ne_zero_of_mem_tokenize (hlines.trans_le (Nat.sub_le _ _))
        (hcharacters.trans_le (Nat.sub_le _ _)) htoken
    case next =>
      rintro front ⟨rest, hfront⟩
      have hjoin : (String.join lines).length =
          (String.join front).length + (String.join rest).length := by
        rw [← hfront, String.join_append, String.length_append]
      exact Lexer.nextId_fed_ne_zero (by omega)

/-- Three calls.  The first line has as many tokens as characters that are scanned, the last of them
being the blank text of a literal. -/
theorem counters_never_wrap_blank_literal :
    (fedLines [.line "a='  ", .lines ["b"], .text "';\n"]).length < UInt64.size - 1 ∧
    (String.join (fedLines [.line "a='  ", .lines ["b"], .text "';\n"])).length <
      UInt64.size - 1 ∧
    ((Lexer.start : Lexer UInt64).answers [.line "a='  ", .lines ["b"], .text "';\n"]).1.map
        (Array.map Token.shown) =
      [#[⟨1, .identifier, "a", ⟨1, 1⟩⟩, ⟨2, .define, "=", ⟨1, 2⟩⟩, ⟨3, .terminalQuote, "'", ⟨1, 3⟩⟩,
          ⟨4, .identifier, "", ⟨1, 4⟩⟩],
        #[⟨5, .identifier, "b", ⟨2, 1⟩⟩],
        #[⟨6, .terminalQuote, "'", ⟨3, 1⟩⟩, ⟨7, .terminator, ";", ⟨3, 2⟩⟩]] ∧
    (session UInt64 [.line "a='  ", .lines ["b"], .text "';\n"]).2.emitted.toNat = 7 ∧
    (Lexer.fed ["a='  ", "b"] : Lexer UInt64).nextId ≠ 0 := by
  have hfed : fedLines [.line "a='  ", .lines ["b"], .text "';\n"] = ["a='  ", "b", "';"] := by
    decide +kernel
  have hlines : (fedLines [.line "a='  ", .lines ["b"], .text "';\n"]).length <
      UInt64.size - 1 := by rw [hfed]; decide
  have hcharacters : (String.join (fedLines [.line "a='  ", .lines ["b"], .text "';\n"])).length <
      UInt64.size - 1 := by rw [hfed]; decide +kernel
  obtain ⟨hanswers, hemitted, -, hnext⟩ :=
    (counters_never_wrap [.line "a='  ", .lines ["b"], .text "';\n"]).2.2.2 hlines hcharacters
  refine ⟨hlines, hcharacters, ?_, ?_, hnext ["a='  ", "b"] ⟨["';"], hfed.symm⟩⟩
  · rw [hanswers]
    decide +kernel
  · rw [hemitted]
    decide +kernel

end EbnfLexer

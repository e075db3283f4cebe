import EbnfLexer.Proofs.LineBreaks
import EbnfLexer.Proofs.Text.Trim

/-!
# Spaces at the end of a line

One space at the end of a line is left out before the line is scanned, and the others
have an effect only where spaces are kept, which is inside a literal.  If text has been
begun there they are gathered behind it, and trimming removes them again.  If none has
been begun they are the beginning of a text, of which nothing is left after trimming:
the end of the line then yields a token with an empty symbol, and this is all that any
number of spaces can do (`feed_trailing_spaces`).

That no text has been begun is to be seen from the line itself.  As the line does not
end with a space, it is empty, or it ends with a delimiter
(`Lexer.endsBare_between_iff`).
-/

namespace EbnfLexer

open Counter Scan TwoPass

/-- A number of spaces. -/
def spaces (n : ℕ) : String := String.ofList (List.replicate n ' ')

theorem toList_append_spaces (line : String) (n : ℕ) :
    (line ++ spaces n).toList = line.toList ++ List.replicate n ' ' := by
  rw [String.toList_append, spaces, String.toList_ofList]

namespace Scan

variable {ν : Type} [Counter ν] {quote : Option Char} {characters : List Char}

theorem not_delimits_of_mem_replicate (quote : Option Char) (n : ℕ) :
    ∀ c ∈ List.replicate n ' ', Literal.delimits quote c = false := by
  intro c hc
  rw [(List.mem_replicate.mp hc).2, Literal.delimits_space]

/-- Spaces behind gathered text are trimmed away.  By themselves they are an empty text. -/
theorem keptLexemes_append_blank {text blanks : List Mark}
    (h : ∀ mark ∈ blanks, Text.isBlank mark.char) :
    (keptLexemes (text ++ blanks) : List (Lexeme ν)) =
      keptLexemes text ++
        if text = [] then blanks.head?.toList.map fun first => ⟨.identifier, "", count first.column⟩
        else [] := by
  have hblank : ∀ c ∈ blanks.map Mark.char, Text.isBlank c := by simpa using h
  cases text with
  | nil =>
      cases blanks with
      | nil => rfl
      | cons first rest =>
          have hempty : Text.trim ([] ++ (first :: rest).map Mark.char) = Text.trim [] :=
            Text.trim_append_blank hblank
          rw [List.nil_append, Text.trim_nil] at hempty
          simp only [List.nil_append, keptLexemes, hempty]
          rfl
  | cons first rest =>
      have hsame : Text.trim ((first :: (rest ++ blanks)).map Mark.char) =
          Text.trim ((first :: rest).map Mark.char) := by
        rw [← List.cons_append, List.map_append, Text.trim_append_blank hblank]
      simp only [List.cons_append, keptLexemes, hsame, if_neg (List.cons_ne_nil _ _),
        List.append_nil]

/-- Spaces are kept inside literals and nowhere else. -/
theorem filter_isKept_marks_spaces (quote : Option Char) (column n : ℕ) :
    (marks quote column (List.replicate n ' ')).filter Mark.isKept =
      if quote.isSome then marks quote column (List.replicate n ' ') else [] := by
  have hkept : ∀ mark ∈ marks quote column (List.replicate n ' '), mark.isKept = quote.isSome := by
    intro mark hmark
    have hspace : mark.char = ' ' := by
      have hmem : mark.char ∈ (marks quote column (List.replicate n ' ')).map Mark.char :=
        List.mem_map_of_mem hmark
      rw [map_char_marks] at hmem
      exact (List.mem_replicate.mp hmem).2
    rw [Mark.isKept, hspace, (mem_marks_segment (not_delimits_of_mem_replicate quote n) hmark).1]
    simp
  split
  case isTrue hinside =>
    refine List.filter_eq_self.mpr ?_
    intro mark hmark
    rw [hkept mark hmark, hinside]
  case isFalse houtside =>
    refine List.filter_eq_nil_iff.mpr ?_
    intro mark hmark
    rw [hkept mark hmark]
    exact houtside

/-- Spaces behind some characters of a line are a lexeme of their own inside a literal where
nothing was gathered, and are not to be seen anywhere else. -/
theorem lexemes_marks_spaces (n : ℕ) :
    (lexemes (marks quote 1 (characters ++ List.replicate n ' ')) : List (Lexeme ν)) =
      lexemes (marks quote 1 characters) ++
        if 0 < n ∧ (Literal.after quote characters).isSome ∧
            gathered (marks quote 1 characters) = [] then
          [⟨.identifier, "", count (characters.length + 1)⟩]
        else [] := by
  set line := marks quote 1 characters
  set inside := Literal.after quote characters
  set blanks := marks inside (1 + characters.length) (List.replicate n ' ')
  have hsegment : ∀ mark ∈ blanks, mark.isDelimiter = false :=
    not_isDelimiter_of_mem_marks (not_delimits_of_mem_replicate inside n)
  have hblank : ∀ mark ∈ blanks.filter Mark.isKept, Text.isBlank mark.char := by
    intro mark hmark
    have hmem : mark.char ∈ blanks.map Mark.char :=
      List.mem_map_of_mem (List.mem_of_mem_filter hmark)
    rw [map_char_marks] at hmem
    rw [(List.mem_replicate.mp hmem).2]
    decide
  have hextra : ((blanks.filter Mark.isKept).head?.toList.map fun first =>
        (⟨.identifier, "", count first.column⟩ : Lexeme ν)) =
      if 0 < n ∧ inside.isSome then [⟨.identifier, "", count (characters.length + 1)⟩] else [] := by
    rw [filter_isKept_marks_spaces]
    cases n with
    | zero => simp
    | succ n =>
        cases inside with
        | none => simp
        | some opening => simp [marks, List.replicate_succ, Nat.add_comm 1]
  rw [marks_append, lexemes_eq_closed_append (line ++ blanks), closed_append_segment hsegment,
    gathered_append_segment hsegment, keptLexemes_append_blank hblank, hextra, ← List.append_assoc,
    ← lexemes_eq_closed_append line]
  congr 1
  by_cases hbare : gathered line = []
  · simp [hbare]
  · simp [hbare]

end Scan

/-- All spaces at the end but one are scanned. -/
theorem TwoPass.stripped_append_spaces {line : String} (h : line.toList.getLast? ≠ some ' ')
    (n : ℕ) : stripped (line ++ spaces n) = line.toList ++ List.replicate (n - 1) ' ' := by
  cases n with
  | zero =>
      rw [spaces, List.replicate_zero, String.ofList_nil, String.append_empty,
        stripped_of_no_space h, List.append_nil]
  | succ n =>
      refine stripped_of_space ?_
      rw [toList_append_spaces, List.replicate_succ', ← List.append_assoc]
      rfl

variable {ν : Type} [Counter ν]

/-- Whether a line ends inside a literal with no text begun: the line is empty, or its last
character is a delimiter where it stands. -/
structure Lexer.EndsBare (lexer : Lexer ν) (line : String) : Prop where
  inside : (lexer.stateBehind line).isQuoted
  bare : line = "" ∨ ∃ front c, line = front.push c ∧
    Literal.delimits (lexer.stateBehind front).quote c

theorem Lexer.endsBare_between_iff {quote : Option Char} {line : String}
    (hline : line.toList.getLast? ≠ some ' ') (taken emitted : ℕ) :
    (between quote taken emitted : Lexer ν).EndsBare line ↔
      (Literal.after quote line.toList).isSome ∧ gathered (marks quote 1 line.toList) = [] := by
  have hinside : ((between quote taken emitted : Lexer ν).stateBehind line).isQuoted =
      (Literal.after quote line.toList).isSome := by
    rw [State.isQuoted, quote_stateBehind_between]
  constructor
  · rintro ⟨hquoted, hbare⟩
    refine ⟨hinside ▸ hquoted, ?_⟩
    rcases hbare with rfl | ⟨front, c, rfl, hdelimits⟩
    · rfl
    · rw [quote_stateBehind_between] at hdelimits
      rw [String.toList_push, marks_concat]
      exact gathered_concat_delimiter hdelimits
  · rintro ⟨hquoted, hgathered⟩
    refine ⟨hinside.trans hquoted, ?_⟩
    rcases List.eq_nil_or_concat line.toList with hnil | ⟨front, c, hconcat⟩
    · exact Or.inl (String.toList_eq_nil_iff.mp hnil)
    · rw [List.concat_eq_append] at hconcat
      refine Or.inr ⟨String.ofList front, c, ?_, ?_⟩
      · rw [← String.toList_inj, hconcat, String.toList_push, String.toList_ofList]
      · rw [hconcat] at hline hgathered
        rw [quote_stateBehind_between, String.toList_ofList]
        have hkept : Mark.isKept ⟨Literal.after quote front, 1 + front.length, c⟩ := by
          have hne : c ≠ ' ' := by
            rintro rfl
            exact hline List.getLast?_concat
          simp [Mark.isKept, hne]
        rw [marks_concat] at hgathered
        exact isDelimiter_of_gathered_eq_nil hgathered List.getLast?_concat hkept

theorem Lexer.feed_between_spaces {quote : Option Char} {line : String}
    (hline : line.toList.getLast? ≠ some ' ') (n taken emitted : ℕ) :
    (between quote taken emitted : Lexer ν).feed (line ++ spaces n) =
      if 2 ≤ n ∧ (Literal.after quote line.toList).isSome ∧
          gathered (marks quote 1 line.toList) = [] then
        (((between quote taken emitted : Lexer ν).feed line).1.push
            ⟨((between quote taken emitted : Lexer ν).feed line).2.nextId, .identifier, "",
              ⟨count (taken + 1), count (line.length + 1)⟩⟩,
          { ((between quote taken emitted : Lexer ν).feed line).2 with
            nextId := Counter.next ((between quote taken emitted : Lexer ν).feed line).2.nextId })
      else (between quote taken emitted).feed line := by
  have hafter : Literal.after quote (line ++ spaces n).toList =
      Literal.after quote line.toList := by
    rw [toList_append_spaces, Literal.after_append,
      Literal.after_of_not_delimits (not_delimits_of_mem_replicate _ n)]
  rw [feed_between, feed_between, hafter, placed_cons, placed_nil, List.append_nil, placed_cons,
    placed_nil, List.append_nil, stripped_append_spaces hline, stripped_of_no_space hline,
    lexemes_marks_spaces]
  have hcount : (0 < n - 1) = (2 ≤ n) := propext (by omega)
  simp only [hcount]
  split
  · rw [List.map_append, numbered_append, String.length_toList]
    simp [numbered, between, next_count, Nat.add_assoc, Nat.add_comm 1]
  · rw [List.append_nil]

/-- **What spaces at the end of a line do.**  They do nothing, except where there are at least two
of them and the line ends inside a literal with no text begun.  There they yield one more token, an
empty text at the column behind the line, and change nothing else. -/
theorem feed_trailing_spaces (lines : List String) (line : String)
    (hline : line.toList.getLast? ≠ some ' ') (n : ℕ) :
    (¬(2 ≤ n ∧ (Lexer.fed lines : Lexer ν).EndsBare line) →
      (Lexer.fed lines : Lexer ν).feed (line ++ spaces n) = (Lexer.fed lines).feed line) ∧
    (2 ≤ n → (Lexer.fed lines : Lexer ν).EndsBare line →
      (Lexer.fed lines : Lexer ν).feed (line ++ spaces n) =
        (((Lexer.fed lines : Lexer ν).feed line).1.push
            ⟨((Lexer.fed lines : Lexer ν).feed line).2.nextId, .identifier, "",
              ⟨((Lexer.fed lines : Lexer ν).feed line).2.line, count (line.length + 1)⟩⟩,
          { ((Lexer.fed lines : Lexer ν).feed line).2 with
            nextId := Counter.next ((Lexer.fed lines : Lexer ν).feed line).2.nextId })) := by
  rw [Lexer.fed_eq_between, Lexer.endsBare_between_iff hline, Lexer.feed_between_spaces hline]
  constructor
  · intro hplain
    rw [if_neg hplain]
  · intro hn hbare
    rw [if_pos ⟨hn, hbare⟩, Lexer.feed_between]
    rfl

/-- Behind a text that leaves an apostrophe open: a line that ends with a delimiter inside the
literal, and one that closes it. -/
theorem feed_trailing_spaces_behind_apostrophe :
    ("y;".toList.getLast? ≠ some ' ' ∧
      (Lexer.fed ["a = 'x"] : Lexer UInt64).EndsBare "y;" ∧
      ((Lexer.fed ["a = 'x"] : Lexer UInt64).feed ("y;" ++ spaces 3)).1.toList =
        [⟨5, .identifier, "y", ⟨2, 1⟩⟩, ⟨6, .terminator, ";", ⟨2, 2⟩⟩,
          ⟨7, .identifier, "", ⟨2, 3⟩⟩]) ∧
    ("y'".toList.getLast? ≠ some ' ' ∧
      ¬(Lexer.fed ["a = 'x"] : Lexer UInt64).EndsBare "y'" ∧
      (Lexer.fed ["a = 'x"] : Lexer UInt64).feed ("y'" ++ spaces 3) =
        (Lexer.fed ["a = 'x"]).feed "y'") := by
  have hopen : "y;".toList.getLast? ≠ some ' ' := by decide
  have hclosed : "y'".toList.getLast? ≠ some ' ' := by decide
  have hbare : (Lexer.fed ["a = 'x"] : Lexer UInt64).EndsBare "y;" :=
    ⟨by decide +kernel, Or.inr ⟨"y", ';', by decide, by decide +kernel⟩⟩
  have hended : ¬(Lexer.fed ["a = 'x"] : Lexer UInt64).EndsBare "y'" := by
    intro h
    exact absurd h.inside (by decide +kernel)
  have hspaces := (feed_trailing_spaces ["a = 'x"] "y;" hopen 3).2 (by decide) hbare
  have hplain := (feed_trailing_spaces ["a = 'x"] "y'" hclosed 3).1 fun h => hended h.2
  refine ⟨⟨hopen, hbare, ?_⟩, hclosed, hended, hplain⟩
  rw [hspaces]
  decide +kernel

end EbnfLexer

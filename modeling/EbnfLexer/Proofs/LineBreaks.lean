import EbnfLexer.Proofs.Relexing
import EbnfLexer.Proofs.Scan.Columns

/-!
# Lines broken in two

A line end ends the text before it, and so does a delimiter.  Where a line is
broken beside a delimiter, or where no text has been begun, the line end therefore
ends nothing that would have gone on: the two lines have the tokens of the one, only
at other places (`feed_broken`).

There is one more thing that happens at a line end: a space before it is left out.
A first part that ends with a space is excluded for this reason.  Without it, a place
where no text has been begun is the beginning of the line or right behind a
delimiter (`isDelimiter_of_gathered_eq_nil`), so that in each case the lexemes of
the two parts can be taken one after the other (`lexemes_append`).
-/

namespace EbnfLexer

open Counter Scan TwoPass

namespace Scan

variable {quote : Option Char} {front back : List Char}

/-- If nothing is gathered behind a character that is kept, this is a delimiter. -/
theorem isDelimiter_of_gathered_eq_nil {line : List Mark} {mark : Mark}
    (hgathered : gathered line = []) (hlast : mark ∈ line.getLast?) (hkept : mark.isKept) :
    mark.isDelimiter := by
  obtain ⟨before, rfl⟩ := List.getLast?_eq_some_iff.mp hlast
  by_contra htext
  rw [gathered_concat_text (by simpa using htext), List.filter_cons_of_pos hkept] at hgathered
  simp at hgathered

/-- Beside such a place one of the two neighbours is a delimiter. -/
theorem joins_eq_false_of_break (hspace : front.getLast? ≠ some ' ')
    (hbreak : gathered (marks quote 1 front) = [] ∨
      ∃ c ∈ back.head?, Literal.delimits (Literal.after quote front) c) (column : ℕ) :
    ∀ left ∈ (marks quote 1 front).getLast?,
      ∀ right ∈ (marks (Literal.after quote front) column back).head?,
        left.joins right = false := by
  intro left hleft right hright
  rcases hbreak with hgathered | ⟨c, hc, hdelimits⟩
  · have hchar : front.getLast? = some left.char := by
      rw [← map_char_marks quote 1 front, List.getLast?_map, hleft, Option.map_some]
    have hkept : left.isKept := by
      have hne : left.char ≠ ' ' := by
        intro hsame
        exact hspace (hchar.trans (congrArg some hsame))
      simp [Mark.isKept, hne]
    have hdelimiter : left.isDelimiter := isDelimiter_of_gathered_eq_nil hgathered hleft hkept
    simp [Mark.joins, hdelimiter]
  · obtain ⟨rest, rfl⟩ := List.head?_eq_some_iff.mp hc
    obtain rfl : right = ⟨Literal.after quote front, column, c⟩ := by
      simpa [marks] using hright.symm
    have hdelimiter : Mark.isDelimiter ⟨Literal.after quote front, column, c⟩ := hdelimits
    simp [Mark.joins, hdelimiter]

variable {ν : Type} [Counter ν] [Add ν] [LawfulAdd ν]

/-- The lexemes of the second part are moved by the length of the first. -/
theorem lexemes_marks_break (hspace : front.getLast? ≠ some ' ')
    (hbreak : gathered (marks quote 1 front) = [] ∨
      ∃ c ∈ back.head?, Literal.delimits (Literal.after quote front) c) :
    (lexemes (marks quote 1 (front ++ back)) : List (Lexeme ν)) =
      lexemes (marks quote 1 front) ++
        (lexemes (marks (Literal.after quote front) 1 back)).map
          (Lexeme.mapColumn (· + count front.length)) := by
  have hmoved : ∀ mark ∈ marks (Literal.after quote front) 1 back,
      (count mark.column : ν) + count front.length = count (front.length + mark.column) := by
    intro mark _
    rw [count_add, LawfulAdd.add_comm]
  calc (lexemes (marks quote 1 (front ++ back)) : List (Lexeme ν))
      = lexemes (marks quote 1 front ++
          marks (Literal.after quote front) (1 + front.length) back) := by rw [marks_append]
    _ = lexemes (marks quote 1 front) ++
          lexemes (marks (Literal.after quote front) (1 + front.length) back) :=
        lexemes_append (joins_eq_false_of_break hspace hbreak _)
    _ = lexemes (marks quote 1 front) ++
          (lexemes (marks (Literal.after quote front) 1 back)).map
            (Lexeme.mapColumn (· + count front.length)) := by
        rw [Nat.add_comm, marks_add, lexemes_map_column _ (· + count front.length) hmoved]

end Scan

/-- What a line begins with is not left out, unless it is a space. -/
theorem TwoPass.head?_stripped {line : String} {c : Char} (h : line.toList.head? = some c)
    (hc : c ≠ ' ') : (stripped line).head? = some c := by
  rcases stripped_cases line with hline | ⟨_, hline⟩
  · cases hfront : stripped line with
    | nil =>
        rw [hline, hfront] at h
        exact absurd (Option.some.inj h).symm hc
    | cons first rest =>
        rw [hline, hfront] at h
        exact h
  · rw [hline, h]

variable {ν : Type} [Counter ν] [Add ν]

/-- A token of the second line at its place in the line that was broken. -/
def Token.rejoined (width : ν) (token : Token ν) : Token ν :=
  ⟨token.id, token.kind, token.symbol,
    ⟨Counter.previous token.position.line, token.position.column + width⟩⟩

variable [LawfulAdd ν]

theorem numbered_rejoined (width first line : ℕ) (found : List (Lexeme ν)) :
    numbered first (found.map fun lexeme => (line, lexeme.mapColumn (· + count width))) =
      (numbered first (found.map fun lexeme => (line + 1, lexeme))).map
        (Token.rejoined (count width)) := by
  have hline : Counter.previous (count (line + 1) : ν) = count line := LawfulAdd.previous_next _
  refine numbered_map ?_ first found
  intro id lexeme
  simp [numbered, Token.rejoined, Lexeme.mapColumn, hline]

theorem Lexer.feed_between_broken {quote : Option Char} {front back : String}
    (hspace : front.toList.getLast? ≠ some ' ')
    (hbreak : gathered (marks quote 1 front.toList) = [] ∨
      ∃ c ∈ back.toList.head?, Literal.delimits (Literal.after quote front.toList) c)
    (taken emitted : ℕ) :
    ((between quote taken emitted : Lexer ν).feed (front ++ back)).1.toList =
        ((between quote taken emitted : Lexer ν).feed front).1.toList ++
          (((between quote taken emitted : Lexer ν).feed front).2.feed back).1.toList.map
            (Token.rejoined (count front.length)) ∧
      ((between quote taken emitted : Lexer ν).feed (front ++ back)).2.state =
        (((between quote taken emitted : Lexer ν).feed front).2.feed back).2.state := by
  have hstripped : stripped (front ++ back) = front.toList ++ stripped back :=
    stripped_append fun _ => hspace
  have hfront : stripped front = front.toList := stripped_of_no_space hspace
  have hstrippedBreak : gathered (marks quote 1 front.toList) = [] ∨
      ∃ c ∈ (stripped back).head?, Literal.delimits (Literal.after quote front.toList) c := by
    refine hbreak.imp_right ?_
    rintro ⟨c, hc, hdelimits⟩
    refine ⟨c, head?_stripped hc ?_, hdelimits⟩
    rintro rfl
    simp at hdelimits
  have hplaced : (placed quote (taken + 1) [front ++ back] : List (ℕ × Lexeme ν)) =
      placed quote (taken + 1) [front] ++
        (lexemes (marks (Literal.after quote front.toList) 1 (stripped back))).map fun lexeme =>
          (taken + 1, lexeme.mapColumn (· + count front.length)) := by
    rw [placed_cons, placed_cons, placed_nil, placed_nil, List.append_nil, List.append_nil,
      hstripped, hfront, lexemes_marks_break hspace hstrippedBreak, List.map_append, List.map_map,
      String.length_toList]
    rfl
  constructor
  · rw [feed_between, feed_between, feed_between, hplaced, numbered_append, numbered_rejoined,
      placed_cons _ _ back, placed_nil, List.append_nil, Nat.add_right_comm]
  · rw [feed_between, feed_between, feed_between, state_between, state_between,
      String.toList_append, Literal.after_append]

/-- **Breaking a line where no text is open, or before a delimiter, changes places only.**  The two
lines yield the tokens of the one.  Those of the second are one line further down, at columns that
count from the break, and both ways the lexer ends in the same state. -/
theorem feed_broken (lines : List String) (front back : String)
    (hspace : front.toList.getLast? ≠ some ' ')
    (hbreak : ((Lexer.fed lines : Lexer ν).stateBehind front).isOpen = false ∨
      ∃ c ∈ back.toList.head?,
        Literal.delimits ((Lexer.fed lines : Lexer ν).stateBehind front).quote c) :
    ((Lexer.fed lines : Lexer ν).feed (front ++ back)).1.toList =
        ((Lexer.fed lines : Lexer ν).feed front).1.toList ++
          (((Lexer.fed lines : Lexer ν).feed front).2.feed back).1.toList.map
            (Token.rejoined (count front.length)) ∧
      ((Lexer.fed lines : Lexer ν).feed (front ++ back)).2.state =
        (((Lexer.fed lines : Lexer ν).feed front).2.feed back).2.state := by
  rw [Lexer.fed_eq_between] at hbreak ⊢
  rw [Lexer.isOpen_stateBehind_between, Lexer.quote_stateBehind_between] at hbreak
  exact Lexer.feed_between_broken hspace hbreak _ _

/-- A line inside a literal that is broken before the quote that closes it. -/
theorem feed_broken_before_quote :
    "y\"".toList.getLast? ≠ some ' ' ∧
    (∃ c ∈ "'; b ".toList.head?,
      Literal.delimits ((Lexer.fed ["a = 'x"] : Lexer UInt64).stateBehind "y\"").quote c) ∧
    (((Lexer.fed ["a = 'x"] : Lexer UInt64).feed "y\"").2.feed "'; b ").1.toList =
      [⟨6, .terminalQuote, "'", ⟨3, 1⟩⟩, ⟨7, .terminator, ";", ⟨3, 2⟩⟩,
        ⟨8, .identifier, "b", ⟨3, 4⟩⟩] ∧
    ((Lexer.fed ["a = 'x"] : Lexer UInt64).feed ("y\"" ++ "'; b ")).1.toList =
      [⟨5, .identifier, "y\"", ⟨2, 1⟩⟩, ⟨6, .terminalQuote, "'", ⟨2, 3⟩⟩,
        ⟨7, .terminator, ";", ⟨2, 4⟩⟩, ⟨8, .identifier, "b", ⟨2, 6⟩⟩] := by
  have hspace : "y\"".toList.getLast? ≠ some ' ' := by decide
  have hbreak : ∃ c ∈ "'; b ".toList.head?,
      Literal.delimits ((Lexer.fed ["a = 'x"] : Lexer UInt64).stateBehind "y\"").quote c :=
    ⟨'\'', by decide, by decide +kernel⟩
  have hfirst : ((Lexer.fed ["a = 'x"] : Lexer UInt64).feed "y\"").1.toList =
      [⟨5, .identifier, "y\"", ⟨2, 1⟩⟩] := by decide +kernel
  have hsecond : (((Lexer.fed ["a = 'x"] : Lexer UInt64).feed "y\"").2.feed "'; b ").1.toList =
      [⟨6, .terminalQuote, "'", ⟨3, 1⟩⟩, ⟨7, .terminator, ";", ⟨3, 2⟩⟩,
        ⟨8, .identifier, "b", ⟨3, 4⟩⟩] := by decide +kernel
  have hbroken := (feed_broken ["a = 'x"] "y\"" "'; b " hspace (Or.inr hbreak)).1
  rw [hfirst, hsecond] at hbroken
  exact ⟨hspace, hbreak, hsecond, hbroken⟩

end EbnfLexer

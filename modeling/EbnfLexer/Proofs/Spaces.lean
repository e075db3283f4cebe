import EbnfLexer.Proofs.Positions
import EbnfLexer.Proofs.Scan.Columns

/-!
# Spaces outside literals

A space outside literals is not kept, so all that it does is to take up a column.
Wherever one is put in, also inside a text or at an end of the line, the tokens of
the line are the same, those behind the space one column further on
(`feed_space_outside`).

The marked line with the space has the kept characters of the marked line without it,
moved by `behind`.  The one thing to look after is the end of the line, where a space
is left out: a space that is put in there is left out itself, and with it the line
keeps the space that it has lost before.  Both ways this is a space that is not kept
(`lexemes_marks_concat_space`).
-/

namespace EbnfLexer

open Counter Scan TwoPass

namespace Scan

/-- A column that is moved one to the right if it lies behind the first `width` columns. -/
def behind {ν : Type} [Counter ν] (width : ℕ) (column : ν) : ν :=
  if Counter.toNat column ≤ width then column else Counter.next column

theorem behind_of_le {width column : ℕ} (h : column ≤ width) : behind width column = column :=
  if_pos h

theorem behind_of_lt {width column : ℕ} (h : width < column) :
    behind width column = column + 1 :=
  if_neg (Nat.not_le_of_lt h)

/-- Every counter that shows a column as it is moves it in the same way. -/
theorem behind_count {ν : Type} [Counter ν] {width column : ℕ}
    (h : Counter.toNat (count column : ν) = column) :
    behind width (count column : ν) = count (behind width column) := by
  unfold behind
  rw [h]
  by_cases hle : column ≤ width
  · exact (if_pos hle).trans (congrArg count (behind_of_le hle)).symm
  · exact (if_neg hle).trans (congrArg count (behind_of_lt (Nat.lt_of_not_le hle))).symm

variable {quote : Option Char} {front back : List Char}

/-- Putting in a space moves what stands behind it, and is not to be seen among what is kept. -/
theorem filter_isKept_marks_space (h : Literal.after quote front = none) :
    (marks quote 1 (front ++ ' ' :: back)).filter Mark.isKept =
      ((marks quote 1 (front ++ back)).map
        (Mark.mapColumn (behind front.length))).filter Mark.isKept := by
  have hfront : (marks quote 1 front).map (Mark.mapColumn (behind front.length)) =
      marks quote 1 front := by
    refine (List.map_congr_left ?_).trans (List.map_id _)
    intro mark hmark
    have := column_of_mem_marks hmark
    rw [Mark.mapColumn, behind_of_le (by omega), id]
  have hback : (marks none (1 + front.length) back).map (Mark.mapColumn (behind front.length)) =
      marks none (1 + (1 + front.length)) back := by
    rw [marks_add none 1 (1 + front.length)]
    refine List.map_congr_left ?_
    intro mark hmark
    have := column_of_mem_marks hmark
    rw [Mark.mapColumn, behind_of_lt (by omega), Nat.add_comm, Mark.mapColumn]
  have hspace : Literal.next none ' ' = none := by decide
  rw [marks_append, marks_append, h, List.map_append, hfront, hback, marks, hspace,
    Nat.add_comm _ 1, List.filter_append, List.filter_append,
    List.filter_cons_of_neg (by simp [Mark.isKept])]

variable {ν : Type} [Counter ν]

/-- The lexemes behind a space that is put in are moved. -/
theorem lexemes_marks_space (hfaithful : Faithful ν (front ++ back).length)
    (h : Literal.after quote front = none) :
    (lexemes (marks quote 1 (front ++ ' ' :: back)) : List (Lexeme ν)) =
      (lexemes (marks quote 1 (front ++ back))).map (Lexeme.mapColumn (behind front.length)) := by
  have hcount : ∀ mark ∈ marks quote 1 (front ++ back),
      behind front.length (count mark.column : ν) = count (behind front.length mark.column) := by
    intro mark hmark
    have := column_of_mem_marks hmark
    exact behind_count (hfaithful _ (by omega))
  calc (lexemes (marks quote 1 (front ++ ' ' :: back)) : List (Lexeme ν))
      = lexemes ((marks quote 1 (front ++ ' ' :: back)).filter Mark.isKept) :=
        (lexemes_filter_isKept _).symm
    _ = lexemes ((marks quote 1 (front ++ back)).map (Mark.mapColumn (behind front.length))) := by
        rw [filter_isKept_marks_space h, lexemes_filter_isKept]
    _ = (lexemes (marks quote 1 (front ++ back))).map (Lexeme.mapColumn (behind front.length)) :=
        lexemes_map_column _ _ hcount

/-- A space at the end of a line that ends outside literals has no lexeme. -/
theorem lexemes_marks_concat_space (h : Literal.after quote front = none) :
    (lexemes (marks quote 1 (front ++ [' '])) : List (Lexeme ν)) = lexemes (marks quote 1 front) := by
  rw [marks_concat, h, ← lexemes_filter_isKept, List.filter_append,
    List.filter_cons_of_neg (by simp [Mark.isKept]), List.filter_nil, List.append_nil,
    lexemes_filter_isKept]

/-- The lexemes in front of a space that is put in stay where they are. -/
theorem map_behind_lexemes {width : ℕ} (hfaithful : Faithful ν width) (h : front.length ≤ width) :
    (lexemes (marks quote 1 front) : List (Lexeme ν)).map (Lexeme.mapColumn (behind width)) =
      lexemes (marks quote 1 front) := by
  have hsame : ∀ mark ∈ marks quote 1 front,
      behind width (count mark.column : ν) = count (id mark.column) := by
    intro mark hmark
    have := column_of_mem_marks hmark
    refine (behind_count (hfaithful _ (by omega))).trans (congrArg count ?_)
    exact behind_of_le (by omega)
  rw [← lexemes_map_column _ _ hsame]
  exact congrArg lexemes (List.map_id _)

end Scan

variable {ν : Type} [Counter ν]

/-- The line with a space put in has the lexemes of the line, moved. -/
theorem lexemes_stripped_space {quote : Option Char} {front back : String}
    (hfaithful : Faithful ν (front ++ back).length)
    (h : Literal.after quote front.toList = none) :
    (lexemes (marks quote 1 (stripped (front ++ " " ++ back))) : List (Lexeme ν)) =
      (lexemes (marks quote 1 (stripped (front ++ back)))).map
        (Lexeme.mapColumn (behind front.length)) := by
  have hspace : (front ++ " ").toList = front.toList ++ [' '] := String.toList_append
  have hlength : (front ++ back).length = front.length + back.length := String.length_append _ _
  by_cases hback : back = ""
  · -- The space that was put in is left out again, and the line keeps its own last space.
    subst hback
    have hfront : (stripped front).length ≤ front.length := length_stripped_le front
    rw [String.append_empty, String.append_empty, stripped_of_space hspace,
      map_behind_lexemes (hfaithful.mono (by omega)) hfront]
    rcases stripped_cases front with hline | ⟨_, hline⟩
    · rw [hline]
      refine lexemes_marks_concat_space ?_
      rw [after_stripped, h]
    · rw [hline]
  · have hnil : back.toList ≠ [] := by simpa using hback
    have hshorter : (front.toList ++ stripped back).length ≤ (front ++ back).length := by
      have := length_stripped_le back
      rw [String.length_toList] at this
      rw [List.length_append, String.length_toList]
      omega
    rw [stripped_append fun hempty => absurd hempty hnil,
      stripped_append fun hempty => absurd hempty hnil, hspace, List.append_assoc]
    exact lexemes_marks_space (hfaithful.mono hshorter) h

/-- A token that is moved to another column. -/
def Token.mapColumn (move : ν → ν) (token : Token ν) : Token ν :=
  { token with position := { token.position with column := move token.position.column } }

theorem numbered_map_column (move : ν → ν) (first line : ℕ) (found : List (Lexeme ν)) :
    numbered first (found.map fun lexeme => (line, lexeme.mapColumn move)) =
      (numbered first (found.map fun lexeme => (line, lexeme))).map (Token.mapColumn move) :=
  numbered_map (fun _ _ => rfl) first found

/-- For as long as the counter shows the columns as they are, a space outside literals moves what
stands behind it and changes nothing else. -/
theorem Lexer.feed_between_space {quote : Option Char} {front back : String}
    (hfaithful : Faithful ν (front ++ back).length)
    (h : Literal.after quote front.toList = none) (taken emitted : ℕ) :
    (between quote taken emitted : Lexer ν).feed (front ++ " " ++ back) =
      (((between quote taken emitted : Lexer ν).feed (front ++ back)).1.map
          (Token.mapColumn (behind front.length)),
        ((between quote taken emitted : Lexer ν).feed (front ++ back)).2) := by
  have hplaced : (placed quote (taken + 1) [front ++ " " ++ back] : List (ℕ × Lexeme ν)) =
      (lexemes (marks quote 1 (stripped (front ++ back)))).map fun lexeme =>
        (taken + 1, lexeme.mapColumn (behind front.length)) := by
    rw [placed_cons, placed_nil, List.append_nil, lexemes_stripped_space hfaithful h, List.map_map]
    rfl
  have hafter : Literal.after quote (front ++ " " ++ back).toList =
      Literal.after quote (front ++ back).toList := by
    have hspace : Literal.after none " ".toList = none := by decide
    simp only [String.toList_append, Literal.after_append, h, hspace]
  rw [feed_between, feed_between, hafter, hplaced, numbered_map_column, placed_cons, placed_nil,
    List.append_nil, List.length_map, List.length_map, List.map_toArray]

/-- **Spaces outside literals mean nothing.**  A space that is put in where the scan stands outside
literals, be it inside a text or at an end of the line, moves the tokens behind it by one column.
Numbers, kinds, symbols, lines and the lexer behind the line are the same.  In machine words this
holds for every line whose columns can be counted. -/
theorem feed_space_outside (lines : List String) (front back : String) :
    (((Lexer.fed lines : Lexer ℕ).stateBehind front).quote = none →
      (Lexer.fed lines : Lexer ℕ).feed (front ++ " " ++ back) =
        (((Lexer.fed lines : Lexer ℕ).feed (front ++ back)).1.map
            (Token.mapColumn (behind front.length)),
          ((Lexer.fed lines : Lexer ℕ).feed (front ++ back)).2)) ∧
    ((front ++ back).length < UInt64.size →
      ((Lexer.fed lines : Lexer UInt64).stateBehind front).quote = none →
        (Lexer.fed lines : Lexer UInt64).feed (front ++ " " ++ back) =
          (((Lexer.fed lines : Lexer UInt64).feed (front ++ back)).1.map
              (Token.mapColumn (behind front.length)),
            ((Lexer.fed lines : Lexer UInt64).feed (front ++ back)).2)) := by
  constructor
  · intro hquote
    rw [Lexer.fed_eq_between, Lexer.quote_stateBehind_between] at hquote
    rw [Lexer.fed_eq_between]
    exact Lexer.feed_between_space (faithful_nat _) hquote _ _
  · intro hlength hquote
    rw [Lexer.fed_eq_between, Lexer.quote_stateBehind_between] at hquote
    rw [Lexer.fed_eq_between]
    exact Lexer.feed_between_space (faithful_uint64 hlength) hquote _ _

/-- A space inside a text, behind a literal that was left open by the line before. -/
theorem feed_space_outside_inside_text :
    ("y' tw" ++ "o 'z ").length < UInt64.size ∧
    ((Lexer.fed ["a = 'x"] : Lexer UInt64).stateBehind "y' tw").quote = none ∧
    ((Lexer.fed ["a = 'x"] : Lexer UInt64).feed ("y' tw" ++ "o 'z ")).1.toList =
      [⟨5, .identifier, "y", ⟨2, 1⟩⟩, ⟨6, .terminalQuote, "'", ⟨2, 2⟩⟩,
        ⟨7, .identifier, "two", ⟨2, 4⟩⟩, ⟨8, .terminalQuote, "'", ⟨2, 8⟩⟩,
        ⟨9, .identifier, "z", ⟨2, 9⟩⟩] ∧
    ((Lexer.fed ["a = 'x"] : Lexer UInt64).feed ("y' tw" ++ " " ++ "o 'z ")).1.toList =
      [⟨5, .identifier, "y", ⟨2, 1⟩⟩, ⟨6, .terminalQuote, "'", ⟨2, 2⟩⟩,
        ⟨7, .identifier, "two", ⟨2, 4⟩⟩, ⟨8, .terminalQuote, "'", ⟨2, 9⟩⟩,
        ⟨9, .identifier, "z", ⟨2, 10⟩⟩] := by
  have hlength : ("y' tw" ++ "o 'z ").length < UInt64.size := by decide +kernel
  have hquote : ((Lexer.fed ["a = 'x"] : Lexer UInt64).stateBehind "y' tw").quote = none := by
    decide +kernel
  have hline : ((Lexer.fed ["a = 'x"] : Lexer UInt64).feed ("y' tw" ++ "o 'z ")).1.toList =
      [⟨5, .identifier, "y", ⟨2, 1⟩⟩, ⟨6, .terminalQuote, "'", ⟨2, 2⟩⟩,
        ⟨7, .identifier, "two", ⟨2, 4⟩⟩, ⟨8, .terminalQuote, "'", ⟨2, 8⟩⟩,
        ⟨9, .identifier, "z", ⟨2, 9⟩⟩] := by decide +kernel
  have hspace := (feed_space_outside ["a = 'x"] "y' tw" "o 'z ").2 hlength hquote
  refine ⟨hlength, hquote, hline, ?_⟩
  rw [hspace, Array.toList_map, hline]
  rfl

end EbnfLexer

import EbnfLexer.Proofs.Scan.Literal
import EbnfLexer.Scan.Line
import Mathlib.Data.List.SplitBy
import Mathlib.Data.List.DropRight

/-!
# The lexemes of a line in two passes

A line can be taken apart without a scan.  The first pass, `marks`, notes for
every character its column and the literal around it, which is decided by the
quotes before it.  The second pass cuts the marked line into pieces: each
delimiter alone, and the segments between them.  A delimiter is a lexeme, and
so is the text that is kept of a segment, unless nothing is kept (`lexemes`).

The lemmas say how `lexemes` goes over a cut (`lexemes_append`): a line may be
put together from parts wherever one of the two neighbours is a delimiter.  The
last part, behind the last delimiter, is where a scan stands; `closed`,
`current` and `gathered` name what is before it, what it is, and what is kept
of it.
-/

namespace EbnfLexer.Scan

open Counter

/-- A character of a line with its column and the quote of the literal around it, if any. -/
structure Mark where
  quote : Option Char
  column : ℕ
  char : Char
  deriving DecidableEq

namespace Mark

/-- Whether the character ends the text before it. -/
def isDelimiter (mark : Mark) : Bool := Literal.delimits mark.quote mark.char

/-- Whether the character is kept as text: inside a literal all are, outside all but the
space. -/
def isKept (mark : Mark) : Bool := mark.quote.isSome || mark.char != ' '

/-- Whether two neighbours belong to the same piece. -/
def joins (left right : Mark) : Bool := !left.isDelimiter && !right.isDelimiter

/-- The lexeme of a delimiter. -/
def sign {ν : Type} [Counter ν] (mark : Mark) : Lexeme ν :=
  ⟨.ofSign mark.char, String.singleton mark.char, count mark.column⟩

end Mark

/-- The first pass over a line that begins inside the literal of `quote`, at `column`. -/
def marks (quote : Option Char) (column : ℕ) : List Char → List Mark
  | [] => []
  | c :: rest => ⟨quote, column, c⟩ :: marks (Literal.next quote c) (column + 1) rest

section

variable {ν : Type} [Counter ν]

/-- The lexeme of kept text: its characters without the white space around them, at the
column of the first. -/
def keptLexemes : List Mark → List (Lexeme ν)
  | [] => []
  | first :: rest =>
      [⟨.identifier, String.ofList (Text.trim ((first :: rest).map Mark.char)),
        count first.column⟩]

/-- The lexeme of a segment, if anything of it is kept. -/
def segmentLexemes (segment : List Mark) : List (Lexeme ν) :=
  keptLexemes (segment.filter Mark.isKept)

/-- The lexemes of a piece, which is a delimiter alone or a segment. -/
def pieceLexemes (piece : List Mark) : List (Lexeme ν) :=
  if piece.any Mark.isDelimiter then piece.map Mark.sign else segmentLexemes piece

/-- The second pass: the lexemes of a marked line. -/
def lexemes (line : List Mark) : List (Lexeme ν) :=
  (line.splitBy Mark.joins).flatMap pieceLexemes

end

/-- Delimiters are kept: the space is none. -/
theorem Mark.isKept_of_isDelimiter {mark : Mark} (h : mark.isDelimiter) : mark.isKept := by
  by_contra hdropped
  have hspace : mark.char = ' ' := by
    simp only [isKept, Bool.or_eq_true, bne_iff_ne, not_or, not_not] at hdropped
    exact hdropped.2
  rw [isDelimiter, hspace, Literal.delimits_space] at h
  contradiction

/-! ## The first pass -/

@[simp] theorem marks_nil (quote : Option Char) (column : ℕ) : marks quote column [] = [] := rfl

/-- The second part of a line is marked from where the first part ends. -/
theorem marks_append (quote : Option Char) (column : ℕ) (characters others : List Char) :
    marks quote column (characters ++ others) =
      marks quote column characters ++
        marks (Literal.after quote characters) (column + characters.length) others := by
  induction characters generalizing quote column with
  | nil => rfl
  | cons c rest ih =>
      simp only [List.cons_append, marks, Literal.after_cons, List.length_cons, ih]
      rw [show column + 1 + rest.length = column + (rest.length + 1) by omega]

theorem marks_concat (quote : Option Char) (column : ℕ) (characters : List Char) (c : Char) :
    marks quote column (characters ++ [c]) =
      marks quote column characters ++
        [⟨Literal.after quote characters, column + characters.length, c⟩] :=
  marks_append quote column characters [c]

/-! ## The second pass -/

section

variable {ν : Type} [Counter ν]

/-- A line may be taken apart beside a delimiter. -/
theorem lexemes_append {line rest : List Mark}
    (h : ∀ left ∈ line.getLast?, ∀ right ∈ rest.head?, left.joins right = false) :
    (lexemes (line ++ rest) : List (Lexeme ν)) = lexemes line ++ lexemes rest := by
  unfold lexemes
  rw [List.splitBy_append h, List.flatMap_append]

theorem lexemes_singleton_of_delimiter {mark : Mark} (h : mark.isDelimiter) :
    (lexemes [mark] : List (Lexeme ν)) = [mark.sign] := by
  have hcut : [mark].splitBy Mark.joins = [[mark]] := rfl
  rw [lexemes, hcut, List.flatMap_singleton, pieceLexemes, if_pos (by simpa using h)]
  rfl

theorem lexemes_concat_delimiter {line : List Mark} {mark : Mark} (h : mark.isDelimiter) :
    (lexemes (line ++ [mark]) : List (Lexeme ν)) = lexemes line ++ [mark.sign] := by
  rw [lexemes_append (by simp [Mark.joins, h]), lexemes_singleton_of_delimiter h]

theorem lexemes_delimiter_cons {mark : Mark} {line : List Mark} (h : mark.isDelimiter) :
    (lexemes (mark :: line) : List (Lexeme ν)) = mark.sign :: lexemes line := by
  rw [← List.singleton_append, lexemes_append (by simp [Mark.joins, h]),
    lexemes_singleton_of_delimiter h, List.singleton_append]

/-- A part without delimiters is one segment. -/
theorem lexemes_segment {segment : List Mark} (h : ∀ mark ∈ segment, mark.isDelimiter = false) :
    (lexemes segment : List (Lexeme ν)) = segmentLexemes segment := by
  rcases eq_or_ne segment [] with rfl | hne
  · rfl
  -- All neighbours join, so nothing is cut.
  have hchain : segment.IsChain fun left right => left.joins right := by
    refine List.Pairwise.isChain (List.pairwise_of_forall_mem_list ?_)
    intro left hleft right hright
    simp [Mark.joins, h left hleft, h right hright]
  have hany : segment.any Mark.isDelimiter = false := by
    simpa using h
  rw [lexemes, List.splitBy_of_isChain hne hchain, List.flatMap_singleton, pieceLexemes, hany]
  simp

/-- The first segment, the delimiter that ends it, and the rest of the line. -/
theorem lexemes_segment_append {segment line : List Mark} {mark : Mark}
    (hsegment : ∀ other ∈ segment, other.isDelimiter = false) (hmark : mark.isDelimiter) :
    (lexemes (segment ++ mark :: line) : List (Lexeme ν)) =
      segmentLexemes segment ++ mark.sign :: lexemes line := by
  rw [lexemes_append (by simp [Mark.joins, hmark]), lexemes_segment hsegment,
    lexemes_delimiter_cons hmark]

end

/-! ## Behind the last delimiter -/

/-- The part of a marked line up to its last delimiter. -/
def closed (line : List Mark) : List Mark := line.rdropWhile fun mark => !mark.isDelimiter

/-- The segment behind the last delimiter of a marked line. -/
def current (line : List Mark) : List Mark := line.rtakeWhile fun mark => !mark.isDelimiter

/-- What is kept of the segment behind the last delimiter. -/
def gathered (line : List Mark) : List Mark := (current line).filter Mark.isKept

theorem closed_append_current (line : List Mark) : closed line ++ current line = line :=
  List.rdropWhile_append_rtakeWhile

theorem not_isDelimiter_of_mem_current {line : List Mark} {mark : Mark}
    (h : mark ∈ current line) : mark.isDelimiter = false := by
  simpa using List.mem_rtakeWhile_imp h

/-- What is closed ends with a delimiter. -/
theorem isDelimiter_of_mem_getLast?_closed {line : List Mark} {mark : Mark}
    (h : mark ∈ (closed line).getLast?) : mark.isDelimiter := by
  obtain ⟨hne, rfl⟩ := List.mem_getLast?_eq_getLast h
  have hlast : ¬ (!((closed line).getLast hne).isDelimiter) :=
    List.rdropWhile_last_not _ _ hne
  simpa using hlast

@[simp] theorem closed_concat_delimiter {line : List Mark} {mark : Mark} (h : mark.isDelimiter) :
    closed (line ++ [mark]) = line ++ [mark] :=
  List.rdropWhile_concat_neg _ _ _ (by simpa using h)

@[simp] theorem closed_concat_text {line : List Mark} {mark : Mark}
    (h : mark.isDelimiter = false) : closed (line ++ [mark]) = closed line :=
  List.rdropWhile_concat_pos _ _ _ (by simpa using h)

@[simp] theorem gathered_concat_delimiter {line : List Mark} {mark : Mark}
    (h : mark.isDelimiter) : gathered (line ++ [mark]) = [] := by
  rw [gathered, current, List.rtakeWhile_concat_neg _ _ _ (by simpa using h), List.filter_nil]

theorem gathered_concat_text {line : List Mark} {mark : Mark} (h : mark.isDelimiter = false) :
    gathered (line ++ [mark]) = gathered line ++ [mark].filter Mark.isKept := by
  rw [gathered, current, List.rtakeWhile_concat_pos _ _ _ (by simpa using h), List.filter_append]
  rfl

/-- Characters behind a line that are no delimiters close nothing. -/
theorem closed_append_segment {line segment : List Mark}
    (h : ∀ mark ∈ segment, mark.isDelimiter = false) : closed (line ++ segment) = closed line := by
  induction segment using List.reverseRecOn with
  | nil => rw [List.append_nil]
  | append_singleton segment mark ih =>
      rw [← List.append_assoc, closed_concat_text (h mark (by simp))]
      exact ih fun other hother => h other (List.mem_append_left _ hother)

/-- Such characters are gathered behind what has been gathered before. -/
theorem gathered_append_segment {line segment : List Mark}
    (h : ∀ mark ∈ segment, mark.isDelimiter = false) :
    gathered (line ++ segment) = gathered line ++ segment.filter Mark.isKept := by
  induction segment using List.reverseRecOn with
  | nil => simp
  | append_singleton segment mark ih =>
      rw [← List.append_assoc, gathered_concat_text (h mark (by simp)), List.filter_append,
        ← List.append_assoc, ih fun other hother => h other (List.mem_append_left _ hother)]

/-- The lexemes of a line are those of its closed part and that of the text gathered since. -/
theorem lexemes_eq_closed_append {ν : Type} [Counter ν] (line : List Mark) :
    (lexemes line : List (Lexeme ν)) = lexemes (closed line) ++ keptLexemes (gathered line) := by
  have hcut : ∀ left ∈ (closed line).getLast?, ∀ right ∈ (current line).head?,
      left.joins right = false := by
    intro left hleft right _
    simp [Mark.joins, isDelimiter_of_mem_getLast?_closed hleft]
  conv => lhs; rw [← closed_append_current line]
  rw [lexemes_append hcut, lexemes_segment fun _ => not_isDelimiter_of_mem_current]
  rfl

end EbnfLexer.Scan

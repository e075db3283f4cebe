import EbnfLexer.Proofs.Contents
import EbnfLexer.Proofs.Text.Trim

/-!
# Lines rebuilt from their tokens

A line is rebuilt by writing the symbols of its tokens one after the other.
Spaces outside literals and blank text are lost by this, and nothing else:
`tokenize_reprint` says that the rebuilt lines have the same tokens up to columns
and numbers, except that blank tokens are gone, and that a second rebuilding
changes nothing.

No two symbols can grow together, because between two texts there is always a
delimiter, and none falls apart, because a symbol holds no delimiter of its
literal.  This is shown for one line by going down its cuts: at every cut the
rebuilt line has the same delimiter in the same literal (`words_printed`,
`after_printed`).  A rebuilt line never ends with a space (`getLast?_printed`),
so none is left out when it is read again.
-/

namespace EbnfLexer

open Counter Scan TwoPass

/-! ## One line -/

namespace Scan

/-- Whether a word is text of which nothing was left. -/
def isBlankWord (word : Kind × String) : Bool := word.1 == .identifier && word.2 == ""

/-- The symbols of the words of a line, without anything between them. -/
def printed (quote : Option Char) (characters : List Char) : List Char :=
  (words quote characters).flatMap fun word => word.2.toList

variable {quote : Option Char} {characters rest : List Char} {c : Char}

theorem mem_of_mem_segmentText (h : c ∈ segmentText quote characters) : c ∈ characters :=
  List.mem_of_mem_filter (Text.mem_of_mem_trim h)

theorem kept_segmentText :
    Literal.kept quote (segmentText quote characters) = segmentText quote characters := by
  refine List.filter_eq_self.mpr ?_
  intro c hc
  exact (List.mem_filter.mp (Text.mem_of_mem_trim hc)).2

theorem flatMap_segmentWords :
    (segmentWords quote characters).flatMap (fun word => word.2.toList) =
      segmentText quote characters := by
  rw [segmentWords]
  split
  · next hkept => rw [segmentText, hkept]; rfl
  · simp

/-- The text of a segment is a segment with the same word, if it is not blank. -/
theorem segmentWords_segmentText :
    segmentWords quote (segmentText quote characters) =
      (segmentWords quote characters).filter fun word => !isBlankWord word := by
  have hagain : segmentText quote (segmentText quote characters) =
      segmentText quote characters := by
    conv => lhs; rw [segmentText, kept_segmentText]
    exact Text.trim_trim _
  rw [segmentWords, kept_segmentText, hagain, segmentWords]
  by_cases hkept : Literal.kept quote characters = []
  · rw [if_pos hkept, if_pos (by rw [segmentText, hkept, Text.trim_nil]), List.filter_nil]
  · rw [if_neg hkept]
    by_cases hblank : segmentText quote characters = []
    · rw [if_pos hblank, List.filter_cons_of_neg, List.filter_nil]
      simp [isBlankWord, hblank]
    · rw [if_neg hblank, List.filter_cons_of_pos, List.filter_nil]
      simpa [isBlankWord] using hblank

theorem printed_segment (h : ∀ c ∈ characters, Literal.delimits quote c = false) :
    printed quote characters = segmentText quote characters := by
  rw [printed, words_segment h, flatMap_segmentWords]

theorem printed_cut (h : ∀ other ∈ characters, Literal.delimits quote other = false)
    (hc : Literal.delimits quote c) :
    printed quote (characters ++ c :: rest) =
      segmentText quote characters ++ c :: printed (Literal.next quote c) rest := by
  rw [printed, words_cut h hc, List.flatMap_append, flatMap_segmentWords, List.flatMap_cons,
    String.toList_singleton]
  rfl

theorem not_delimits_segmentText (h : ∀ c ∈ characters, Literal.delimits quote c = false) :
    ∀ c ∈ segmentText quote characters, Literal.delimits quote c = false := by
  intro c hc
  exact h c (mem_of_mem_segmentText hc)

/-- A printed line has no characters but those of the line. -/
theorem mem_of_mem_printed (hc : c ∈ printed quote characters) : c ∈ characters := by
  induction quote, characters using Literal.cut_induction with
  | segment quote characters h =>
      rw [printed_segment h] at hc
      exact mem_of_mem_segmentText hc
  | cut quote characters delimiter rest h hdelimiter ih =>
      rw [printed_cut h hdelimiter] at hc
      rcases List.mem_append.mp hc with hsegment | hbehind
      · exact List.mem_append_left _ (mem_of_mem_segmentText hsegment)
      · rcases List.mem_cons.mp hbehind with rfl | hrest
        · exact List.mem_append_right _ (List.mem_cons_self ..)
        · exact List.mem_append_right _ (List.mem_cons_of_mem _ (ih hrest))

variable (quote characters)

/-- A printed line has the words of the line without those that were blank. -/
theorem words_printed :
    words quote (printed quote characters) =
      (words quote characters).filter fun word => !isBlankWord word := by
  induction quote, characters using Literal.cut_induction with
  | segment quote characters h =>
      rw [printed_segment h, words_segment (not_delimits_segmentText h), words_segment h,
        segmentWords_segmentText]
  | cut quote characters c rest h hc ih =>
      have hsign : isBlankWord (Kind.ofSign c, String.singleton c) = false := by
        simp [isBlankWord]
      rw [printed_cut h hc, words_cut (not_delimits_segmentText h) hc, words_cut h hc,
        segmentWords_segmentText, ih, List.filter_append,
        List.filter_cons_of_pos (by rw [hsign]; rfl)]

/-- A printed line ends inside the literal in which the line ends. -/
theorem after_printed : Literal.after quote (printed quote characters) =
    Literal.after quote characters := by
  induction quote, characters using Literal.cut_induction with
  | segment quote characters h =>
      rw [printed_segment h, Literal.after_of_not_delimits (not_delimits_segmentText h),
        Literal.after_of_not_delimits h]
  | cut quote characters c rest h hc ih =>
      rw [printed_cut h hc, Literal.after_append, Literal.after_append,
        Literal.after_of_not_delimits (not_delimits_segmentText h),
        Literal.after_of_not_delimits h, Literal.after_cons, Literal.after_cons, ih]

/-- Printing a printed line changes nothing. -/
theorem printed_printed : printed quote (printed quote characters) = printed quote characters := by
  conv => lhs; rw [printed, words_printed]
  unfold printed
  -- The words that are filtered out are blank, so they print nothing.
  induction words quote characters with
  | nil => rfl
  | cons word rest ih =>
      cases hblank : isBlankWord word with
      | false => rw [List.filter_cons_of_pos (by rw [hblank]; rfl), List.flatMap_cons,
          List.flatMap_cons, ih]
      | true =>
          have hempty : word.2 = "" := by
            simp only [isBlankWord, Bool.and_eq_true, beq_iff_eq] at hblank
            exact hblank.2
          rw [List.filter_cons_of_neg (by simp [hblank]), ih, List.flatMap_cons, hempty]
          rfl

/-- No space stands at the end of a printed line. -/
theorem getLast?_printed : (printed quote characters).getLast? ≠ some ' ' := by
  induction quote, characters using Literal.cut_induction with
  | segment quote characters h =>
      intro hlast
      rw [printed_segment h] at hlast
      have hblank : Text.isBlank ' ' = false := Text.not_isBlank_of_mem_getLast?_trim hlast
      exact absurd hblank (by decide)
  | cut quote characters c rest h hc ih =>
      intro hlast
      rw [printed_cut h hc, List.getLast?_append_cons, List.getLast?_cons] at hlast
      cases hrest : (printed (Literal.next quote c) rest).getLast? with
      | none =>
          -- the delimiter itself is the last character
          rw [hrest] at hlast
          obtain rfl : c = ' ' := by simpa using hlast
          simp at hc
      | some last =>
          rw [hrest] at hlast ih
          exact ih (by simpa using hlast)

end Scan

/-! ## Lines -/

variable {ν : Type} [Counter ν]

/-- Whether a token is text of which nothing was left. -/
def Token.isBlank (token : Token ν) : Bool :=
  token.kind == .identifier && token.symbol == ""

/-- The tokens of further lines, line by line. -/
def Lexer.feedEach (lexer : Lexer ν) : List String → List (List (Token ν))
  | [] => []
  | line :: lines => (lexer.feed line).1.toList :: (lexer.feed line).2.feedEach lines

/-- The line that is rebuilt from its tokens. -/
def rebuilt (tokens : List (Token ν)) : String := String.join (tokens.map Token.symbol)

/-- Line by line the tokens are those of all lines together. -/
theorem flatten_feedEach (lexer : Lexer ν) (lines : List String) :
    (lexer.feedEach lines).flatten = (lexer.feedAll lines).1.toList := by
  induction lines generalizing lexer with
  | nil => rfl
  | cons line lines ih =>
      rw [Lexer.feedEach, List.flatten_cons, ih, Lexer.feedAll_cons, Array.toList_append]

variable (ν) in
/-- The lines of a text, each rebuilt from the tokens that it produced. -/
def reprint (lines : List String) : List String :=
  ((Lexer.start : Lexer ν).feedEach lines).map rebuilt

/-- The printed lines of a text that begins inside the literal of `quote`. -/
def printedLines (quote : Option Char) : List String → List String
  | [] => []
  | line :: lines =>
      String.ofList (printed quote (stripped line)) ::
        printedLines (Literal.after quote line.toList) lines

theorem stripped_printed (quote : Option Char) (characters : List Char) :
    stripped (String.ofList (printed quote characters)) = printed quote characters := by
  rw [stripped_of_no_space, String.toList_ofList]
  rw [String.toList_ofList]
  exact getLast?_printed quote characters

/-- A printed line leaves open the literal that the line leaves open. -/
theorem after_toList_printed (quote : Option Char) (line : String) :
    Literal.after quote (String.ofList (printed quote (stripped line))).toList =
      Literal.after quote line.toList := by
  rw [String.toList_ofList, after_printed, after_stripped]

/-- Printed lines have the content of the lines without blank text. -/
theorem contents_printedLines (quote : Option Char) (first : ℕ) (lines : List String) :
    contents quote first (printedLines quote lines) =
      (contents quote first lines).filter fun content => !isBlankWord content.2 := by
  induction lines generalizing quote first with
  | nil => rfl
  | cons line lines ih =>
      rw [printedLines, contents, contents, stripped_printed, words_printed,
        after_toList_printed, ih, List.filter_append, List.filter_map]
      rfl

theorem after_printedLines (quote : Option Char) (lines : List String) :
    Literal.after quote ((printedLines quote lines).flatMap String.toList) =
      Literal.after quote (lines.flatMap String.toList) := by
  induction lines generalizing quote with
  | nil => rfl
  | cons line lines ih =>
      rw [printedLines, List.flatMap_cons, List.flatMap_cons, Literal.after_append,
        Literal.after_append, after_toList_printed, ih]

theorem printedLines_printedLines (quote : Option Char) (lines : List String) :
    printedLines quote (printedLines quote lines) = printedLines quote lines := by
  induction lines generalizing quote with
  | nil => rfl
  | cons line lines ih =>
      rw [printedLines, printedLines, stripped_printed, printed_printed, after_toList_printed, ih]

/-! ## Rebuilding -/

/-- A line is rebuilt from its tokens as it is printed. -/
theorem rebuilt_numbered (quote : Option Char) (id first : ℕ) (line : String) :
    rebuilt (numbered id (placed quote first [line]) : List (Token ν)) =
      String.ofList (printed quote (stripped line)) := by
  have hsymbols : (numbered id (placed quote first [line]) : List (Token ν)).map Token.symbol =
      (words quote (stripped line)).map Prod.snd := by
    calc (numbered id (placed quote first [line]) : List (Token ν)).map Token.symbol
        = ((numbered id (placed quote first [line]) : List (Token ν)).map Token.content).map
            fun content => content.2.2 := by rw [List.map_map]; rfl
      _ = (words quote (stripped line)).map Prod.snd := by
          rw [map_content_numbered, map_word_placed, contents, contents, List.append_nil,
            List.map_map, List.map_map]
          rfl
  rw [← String.toList_inj, String.toList_ofList, rebuilt, hsymbols, String.toList_join, printed,
    List.flatMap_map]

theorem map_rebuilt_feedEach (quote : Option Char) (taken emitted : ℕ) (lines : List String) :
    ((Lexer.between quote taken emitted : Lexer ν).feedEach lines).map rebuilt =
      printedLines quote lines := by
  induction lines generalizing quote taken emitted with
  | nil => rfl
  | cons line lines ih =>
      rw [Lexer.feedEach, Lexer.feed_between, List.map_cons, ih, rebuilt_numbered, printedLines]

variable (ν) in
theorem reprint_eq_printedLines (lines : List String) : reprint ν lines = printedLines none lines :=
  map_rebuilt_feedEach none 0 0 lines

/-- **Reading rebuilt lines gives the same tokens again**, without those that were blank, and
ends in the same state; rebuilding a second time changes nothing. -/
theorem tokenize_reprint (lines : List String) :
    (tokenize (reprint ν lines) : List (Token ν)).map Token.content =
        ((tokenize lines : List (Token ν)).filter fun token => !token.isBlank).map Token.content ∧
      (Lexer.fed (reprint ν lines) : Lexer ν).state = (Lexer.fed lines : Lexer ν).state ∧
      reprint ν (reprint ν lines) = reprint ν lines := by
  have hblank : ∀ found : List (Token ν),
      (found.filter fun token => !token.isBlank).map Token.content =
        (found.map Token.content).filter fun content => !isBlankWord content.2 := by
    intro found
    rw [List.filter_map]
    rfl
  refine ⟨?_, ?_, ?_⟩
  · rw [hblank, map_content_tokenize, map_content_tokenize, reprint_eq_printedLines,
      contents_printedLines, List.filter_map]
    rfl
  · rw [Lexer.state_fed, Lexer.state_fed, reprint_eq_printedLines, after_printedLines]
  · rw [reprint_eq_printedLines, reprint_eq_printedLines, printedLines_printedLines]

end EbnfLexer

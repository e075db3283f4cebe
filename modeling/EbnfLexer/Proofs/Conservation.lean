import EbnfLexer.Proofs.Reprint

/-!
# No text is lost

Characters of a line go into the text that is gathered, and from there into a
symbol, or they are delimiters and symbols of their own.  The only ones that
never arrive are spaces: the one at the end of a line, those outside literals,
and the white space around the text of a symbol.  So apart from white space the
symbols of the tokens, one after the other, are the lines
(`withoutBlank_symbols_feedAll`).

The symbols of one line, one after the other, are the printed line, and
`withoutBlank_printed` goes down its cuts.
-/

namespace EbnfLexer

open Counter Scan TwoPass Text

namespace Scan

/-- Only spaces are not kept of a segment. -/
theorem withoutBlank_kept (quote : Option Char) (characters : List Char) :
    withoutBlank (Literal.kept quote characters) = withoutBlank characters := by
  unfold withoutBlank Literal.kept
  rw [List.filter_filter]
  refine List.filter_congr ?_
  intro c _
  by_cases hspace : c = ' '
  · subst hspace
    have hblank : isBlank ' ' := by decide
    simp [hblank]
  · simp [hspace]

theorem withoutBlank_segmentText (quote : Option Char) (characters : List Char) :
    withoutBlank (segmentText quote characters) = withoutBlank characters := by
  rw [segmentText, withoutBlank_trim, withoutBlank_kept]

/-- A printed line has the characters of the line, apart from white space. -/
theorem withoutBlank_printed (quote : Option Char) (characters : List Char) :
    withoutBlank (printed quote characters) = withoutBlank characters := by
  induction quote, characters using Literal.cut_induction with
  | segment quote characters h => rw [printed_segment h, withoutBlank_segmentText]
  | cut quote characters c rest h hc ih =>
      calc withoutBlank (printed quote (characters ++ c :: rest))
          = withoutBlank (segmentText quote characters ++
              ([c] ++ printed (Literal.next quote c) rest)) := by rw [printed_cut h hc]; rfl
        _ = withoutBlank (characters ++ ([c] ++ rest)) := by
            rw [withoutBlank_append, withoutBlank_append, withoutBlank_segmentText, ih,
              ← withoutBlank_append, ← withoutBlank_append]

end Scan

theorem withoutBlank_stripped (line : String) :
    withoutBlank (stripped line) = withoutBlank line.toList := by
  rcases stripped_cases line with hline | ⟨_, hline⟩
  · have hspace : withoutBlank [' '] = [] := by decide
    rw [hline, withoutBlank_append, hspace, List.append_nil]
  · rw [hline]

/-- The words of lines hold the characters of the lines, apart from white space. -/
theorem withoutBlank_contents (quote : Option Char) (first : ℕ) (lines : List String) :
    withoutBlank ((contents quote first lines).flatMap fun content => content.2.2.toList) =
      withoutBlank (lines.flatMap String.toList) := by
  induction lines generalizing quote first with
  | nil => rfl
  | cons line lines ih =>
      have hline : withoutBlank (((words quote (stripped line)).map fun word =>
          (first, word)).flatMap fun content => content.2.2.toList) =
          withoutBlank line.toList := by
        rw [List.flatMap_map, ← withoutBlank_stripped line,
          ← withoutBlank_printed quote (stripped line)]
        rfl
      rw [contents, List.flatMap_append, withoutBlank_append, hline, ih, List.flatMap_cons,
        withoutBlank_append]

variable {ν : Type} [Counter ν]

/-- **No text is lost, duplicated or reordered.**  Whatever lines came before, the symbols of the
tokens of further lines are, one after the other and apart from white space, these lines. -/
theorem withoutBlank_symbols_feedAll (lines further : List String) :
    withoutBlank (String.join
        (((Lexer.fed lines : Lexer ν).feedAll further).1.toList.map Token.symbol)).toList =
      withoutBlank (String.join further).toList := by
  rw [Lexer.fed_eq_between, Lexer.feedAll_between]
  set quote := Literal.after none (lines.flatMap String.toList)
  set first := lines.length + 1
  set emitted := (placed none 1 lines : List (ℕ × Lexeme ν)).length
  have hsymbols : (numbered (emitted + 1) (placed quote first further) : List (Token ν)).map
      Token.symbol = (contents quote first further).map fun content => content.2.2 := by
    calc (numbered (emitted + 1) (placed quote first further) : List (Token ν)).map Token.symbol
        = ((numbered (emitted + 1) (placed quote first further) : List (Token ν)).map
            Token.content).map fun content => content.2.2 := by rw [List.map_map]; rfl
      _ = (contents quote first further).map fun content => content.2.2 := by
          rw [map_content_numbered, map_word_placed, List.map_map]
          rfl
  rw [hsymbols, String.toList_join, String.toList_join, List.flatMap_map, withoutBlank_contents]

end EbnfLexer

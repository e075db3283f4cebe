import EbnfLexer.Proofs.Run
import EbnfLexer.Proofs.Text.Lines

/-!
# Other line ends

A text may end its lines by line feeds or by carriage returns with line feeds, and it
may or may not end its last line.  None of this reaches the tokens
(`tokenize_line_ends`).  Most of it does not even reach the lines.  What does is a line
feed behind a text that has ended its last line already: it is a line more, and an empty
line has no tokens and leaves every lexer where it stood, also inside a literal
(`Lexer.feed_between_empty`).
-/

namespace EbnfLexer

open Counter Scan TwoPass Text

variable {ν : Type} [Counter ν]

/-- An empty line is counted, and that is all. -/
theorem Lexer.feed_between_empty (quote : Option Char) (taken emitted : ℕ) :
    (between quote taken emitted : Lexer ν).feed "" =
      (#[], between quote (taken + 1) emitted) := by
  have hplaced : (placed quote (taken + 1) [""] : List (ℕ × Lexeme ν)) = [] := by
    rw [placed_cons, placed_nil, stripped_of_no_space (by simp)]
    rfl
  rw [feed_between, hplaced]
  rfl

theorem feedAll_concat_empty (lines : List String) :
    ((Lexer.start : Lexer ν).feedAll (lines ++ [""])).1 = (Lexer.start.feedAll lines).1 ∧
      (Lexer.fed (lines ++ [""]) : Lexer ν).state = (Lexer.fed lines : Lexer ν).state := by
  have hempty := Lexer.feed_between_empty (ν := ν)
  constructor
  · rw [Lexer.feedAll_append, Lexer.feedAll_cons, Lexer.feedAll_start, hempty]
    simp
  · rw [Lexer.fed, Lexer.feedAll_append, Lexer.feedAll_cons, Lexer.feedAll_start, hempty,
      Lexer.feedAll_nil, Lexer.fed_eq_between, Lexer.state_between, Lexer.state_between]

/-- **Line ends do not matter.**  Texts without line feeds are the lines of the text in which each
of them is ended, by a carriage return and a line feed, or by a line feed alone unless one of them
ends with a carriage return itself.  A text has the same tokens with carriage returns put before
its line feeds, and the same tokens, and the same state behind it, with a line feed put behind
it. -/
theorem tokenize_line_ends :
    (∀ texts : List String, (∀ text ∈ texts, '\n' ∉ text.toList) →
      lines (endedBy "\r\n" texts) = texts) ∧
    (∀ texts : List String, (∀ text ∈ texts, '\n' ∉ text.toList) →
      (∀ text ∈ texts, text.toList.getLast? ≠ some '\r') →
        lines (endedBy "\n" texts) = texts) ∧
    (∀ text : String, '\r' ∉ text.toList →
      (tokenize (lines (withReturns text)) : List (Token ν)) = tokenize (lines text)) ∧
    (∀ text : String, text.toList.getLast? ≠ some '\r' →
      (tokenize (lines (text ++ "\n")) : List (Token ν)) = tokenize (lines text) ∧
        (Lexer.fed (lines (text ++ "\n")) : Lexer ν).state =
          (Lexer.fed (lines text) : Lexer ν).state) := by
  refine ⟨?ended, ?endedByFeed, ?returns, ?feed⟩
  case ended =>
    intro texts hfeed
    exact lines_endedBy_return hfeed
  case endedByFeed =>
    intro texts hfeed hreturn
    exact lines_endedBy_feed hfeed hreturn
  case returns =>
    intro text hreturn
    rw [lines_withReturns hreturn]
  case feed =>
    intro text hreturn
    rcases lines_append_feed hreturn with hsame | hmore
    · rw [hsame]
      exact ⟨rfl, rfl⟩
    · rw [hmore, tokenize, tokenize, (feedAll_concat_empty (lines text)).1]
      exact ⟨rfl, (feedAll_concat_empty (lines text)).2⟩

/-- Lines with a carriage return inside and a blank one at the end, and a text that ends inside a
literal behind a line feed. -/
theorem tokenize_line_ends_inside_literal :
    ((∀ text ∈ ["a\rb", " "], '\n' ∉ text.toList) ∧
      lines "a\rb\r\n \r\n" = ["a\rb", " "]) ∧
    ((∀ text ∈ ["a\rb", " "], text.toList.getLast? ≠ some '\r') ∧
      lines "a\rb\n \n" = ["a\rb", " "]) ∧
    ('\r' ∉ "a = 'x\n y\n".toList ∧
      (tokenize (lines "a = 'x\r\n y\r\n") : List (Token UInt64)) =
        tokenize (lines "a = 'x\n y\n")) ∧
    ("a = 'x\n y\n".toList.getLast? ≠ some '\r' ∧
      (tokenize (lines "a = 'x\n y\n\n") : List (Token UInt64)) =
        tokenize (lines "a = 'x\n y\n")) := by
  have hfeed : ∀ text ∈ ["a\rb", " "], '\n' ∉ text.toList := by simp
  have hplain : ∀ text ∈ ["a\rb", " "], text.toList.getLast? ≠ some '\r' := by simp
  have hreturn : '\r' ∉ "a = 'x\n y\n".toList := by simp
  have hend : "a = 'x\n y\n".toList.getLast? ≠ some '\r' := by simp
  have hbyReturn : endedBy "\r\n" ["a\rb", " "] = "a\rb\r\n \r\n" := by decide +kernel
  have hbyFeed : endedBy "\n" ["a\rb", " "] = "a\rb\n \n" := by decide +kernel
  have hwith : withReturns "a = 'x\n y\n" = "a = 'x\r\n y\r\n" := by decide +kernel
  have hmore : "a = 'x\n y\n" ++ "\n" = "a = 'x\n y\n\n" := by decide +kernel
  obtain ⟨hended, hendedByFeed, hreturns, happended⟩ := tokenize_line_ends (ν := UInt64)
  rw [← hbyReturn, ← hbyFeed, ← hwith, ← hmore]
  exact ⟨⟨hfeed, hended _ hfeed⟩, ⟨hplain, hendedByFeed _ hfeed hplain⟩,
    ⟨hreturn, hreturns _ hreturn⟩, hend, (happended _ hend).1⟩

end EbnfLexer

import EbnfLexer.Proofs.Positions
import EbnfLexer.Proofs.Relexing
import EbnfLexer.Text.Lines

/-!
# Sessions

A lexer may be called many times, each time with a line, with some lines or with
a text.  What such a session yields is decided by the lines alone, one call after
the other (`Lexer.answers_eq_feedAll`): how they are grouped into calls does not
matter.  Its tokens are those of one run over all these lines, so their numbers
and places are right over the whole session (`wellPlaced_session`).
-/

namespace EbnfLexer

open Counter Scan TwoPass

/-- A call of a lexer. -/
inductive Call where
  | line (line : String)
  | lines (lines : List String)
  | text (text : String)

/-- The lines that a call feeds. -/
def Call.fed : Call → List String
  | .line single => [single]
  | .lines many => many
  | .text whole => Text.lines whole

/-- The lines that the calls of a session feed. -/
def fedLines (calls : List Call) : List String := calls.flatMap Call.fed

section

variable {ν : Type} [Counter ν]

namespace Lexer

/-- The answer to one call, and the lexer after it. -/
def answer (lexer : Lexer ν) : Call → Array (Token ν) × Lexer ν
  | .line line => lexer.feed line
  | .lines lines => lexer.feedAll lines
  | .text text => lexer.feedAll (Text.lines text)

/-- The answers to calls, and the lexer after them. -/
def answers (lexer : Lexer ν) : List Call → List (Array (Token ν)) × Lexer ν
  | [] => ([], lexer)
  | call :: calls =>
      let (tokens, next) := lexer.answer call
      let (others, last) := next.answers calls
      (tokens :: others, last)

theorem answer_eq_feedAll (lexer : Lexer ν) (call : Call) :
    lexer.answer call = lexer.feedAll call.fed := by
  cases call with
  | line line =>
      have hone : lexer.feedAll [line] = lexer.feed line := by
        rw [feedAll_cons, feedAll_nil, Array.append_empty]
      exact hone.symm
  | lines lines => rfl
  | text text => rfl

/-- All answers together are those of one run over the lines of the session. -/
theorem answers_eq_feedAll (lexer : Lexer ν) (calls : List Call) :
    ((lexer.answers calls).1.flatMap Array.toList, (lexer.answers calls).2) =
      ((lexer.feedAll (fedLines calls)).1.toList, (lexer.feedAll (fedLines calls)).2) := by
  induction calls generalizing lexer with
  | nil => rfl
  | cons call calls ih =>
      have hcalls := ih (lexer.answer call).2
      rw [Prod.mk.injEq] at hcalls
      have hlines : fedLines (call :: calls) = call.fed ++ fedLines calls := rfl
      rw [hlines, feedAll_append, ← answer_eq_feedAll, Array.toList_append, ← hcalls.1, ← hcalls.2]
      rfl

end Lexer

variable (ν) in
/-- The tokens of a session from the start, and the lexer after it. -/
def session (calls : List Call) : List (Token ν) × Lexer ν :=
  (((Lexer.start : Lexer ν).answers calls).1.flatMap Array.toList,
    ((Lexer.start : Lexer ν).answers calls).2)

theorem session_eq (calls : List Call) :
    session ν calls = (tokenize (fedLines calls), Lexer.fed (fedLines calls)) :=
  Lexer.answers_eq_feedAll _ _

end

/-- In machine words, too, the tokens of a text have right numbers and places, as long as its lines
and its characters can be counted in words. -/
theorem wellPlaced_uint64 {lines : List String} (hlines : lines.length < UInt64.size)
    (hcharacters : (String.join lines).length < UInt64.size) :
    WellPlaced lines (tokenize lines : List (Token UInt64))
      (count (placed none 1 lines : List (ℕ × Lexeme ℕ)).length) := by
  set bound := max lines.length (String.join lines).length
  have hbound : bound < UInt64.size := max_lt hlines hcharacters
  rw [map_counted_tokenize]
  refine (wellPlaced_nat lines).counted (faithful_uint64 hbound) ?_ (le_max_left _ _) ?_
  · have hemitted := length_placed_le none 1 lines
    rw [← length_join_eq] at hemitted
    exact hemitted.trans (le_max_right _ _)
  · intro line hline
    exact (length_stripped_le_length_join hline).trans (le_max_right _ _)

/-- **Numbers and places of a whole session.**  Whatever calls were made of a lexer, its tokens are
numbered from one on and without gaps, as many as it counts, they come in the order of their places,
and each is at a column of one of the lines that were fed.  The calls into which the lines are
grouped do not matter.  In machine words all this holds as long as lines and characters can be
counted. -/
theorem wellPlaced_session (calls : List Call) :
    WellPlaced (fedLines calls) (session ℕ calls).1 (session ℕ calls).2.emitted ∧
    ((fedLines calls).length < UInt64.size → (String.join (fedLines calls)).length < UInt64.size →
      WellPlaced (fedLines calls) (session UInt64 calls).1 (session UInt64 calls).2.emitted) ∧
    ∀ others : List Call, fedLines others = fedLines calls →
      session ℕ others = session ℕ calls ∧ session UInt64 others = session UInt64 calls := by
  refine ⟨?nat, ?words, ?grouping⟩
  case nat =>
    rw [session_eq, Lexer.fed_eq_between, Lexer.emitted_between, count_nat]
    exact wellPlaced_nat _
  case words =>
    intro hlines hcharacters
    have hlength : (placed none 1 (fedLines calls) : List (ℕ × Lexeme UInt64)).length =
        (placed none 1 (fedLines calls) : List (ℕ × Lexeme ℕ)).length := by
      rw [map_counted_placed, List.length_map]
    rw [session_eq, Lexer.fed_eq_between, Lexer.emitted_between, hlength]
    exact wellPlaced_uint64 hlines hcharacters
  case grouping =>
    intro others hlines
    rw [session_eq, session_eq, session_eq, session_eq, hlines]
    exact ⟨rfl, rfl⟩

/-- A session of three calls with a literal over a line end, and the same lines in one call. -/
theorem wellPlaced_session_over_calls :
    ((fedLines [.line "a = 'x", .lines ["", "y' ; b "], .text "c\r\n d"]).length < UInt64.size ∧
      (String.join (fedLines [.line "a = 'x", .lines ["", "y' ; b "], .text "c\r\n d"])).length <
        UInt64.size ∧
      WellPlaced ["a = 'x", "", "y' ; b ", "c", " d"]
        (session UInt64 [.line "a = 'x", .lines ["", "y' ; b "], .text "c\r\n d"]).1 10) ∧
    (fedLines [.lines ["a = 'x", "", "y' ; b ", "c", " d"]] =
        fedLines [.line "a = 'x", .lines ["", "y' ; b "], .text "c\r\n d"] ∧
      session UInt64 [.lines ["a = 'x", "", "y' ; b ", "c", " d"]] =
        session UInt64 [.line "a = 'x", .lines ["", "y' ; b "], .text "c\r\n d"]) := by
  have hfed : fedLines [.line "a = 'x", .lines ["", "y' ; b "], .text "c\r\n d"] =
      ["a = 'x", "", "y' ; b ", "c", " d"] := by decide +kernel
  have hemitted : (session UInt64 [.line "a = 'x", .lines ["", "y' ; b "],
      .text "c\r\n d"]).2.emitted = 10 := by decide +kernel
  have hlines : (fedLines [.line "a = 'x", .lines ["", "y' ; b "], .text "c\r\n d"]).length <
      UInt64.size := by rw [hfed]; decide
  have hcharacters : (String.join (fedLines [.line "a = 'x", .lines ["", "y' ; b "],
      .text "c\r\n d"])).length < UInt64.size := by rw [hfed]; decide +kernel
  have honce : fedLines [.lines ["a = 'x", "", "y' ; b ", "c", " d"]] =
      fedLines [.line "a = 'x", .lines ["", "y' ; b "], .text "c\r\n d"] := hfed.symm
  obtain ⟨-, hwords, hgrouping⟩ :=
    wellPlaced_session [.line "a = 'x", .lines ["", "y' ; b "], .text "c\r\n d"]
  have hplaced := hwords hlines hcharacters
  rw [hemitted, hfed] at hplaced
  exact ⟨⟨hlines, hcharacters, hplaced⟩, honce, (hgrouping _ honce).2⟩

end EbnfLexer

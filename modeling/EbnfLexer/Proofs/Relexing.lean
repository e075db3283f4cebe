import EbnfLexer.Proofs.Run

/-!
# Lines behind different beginnings

What further lines yield depends on the lines before them in three things only:
the literal that these leave open, their number and the number of their tokens.
Behind two beginnings that leave the same literal open, further lines have the
same tokens up to a shift of ids and lines (`feedAll_of_quote_eq`), and behind a
beginning that leaves none open they have the tokens that they have by
themselves, shifted.

Nothing is shown for the two runs side by side.  Between two lines a lexer is
`Lexer.between`, and the tokens of further lines are those of a fresh run inside
the same literal, moved by the two numbers (`Lexer.toList_feedAll_between`).
-/

namespace EbnfLexer

open Counter Scan TwoPass

variable {ν : Type} [Counter ν] [Add ν]

/-- A token whose number and line are moved on. -/
def Token.shifted (ids lines : ν) (token : Token ν) : Token ν :=
  ⟨token.id + ids, token.kind, token.symbol,
    ⟨token.position.line + lines, token.position.column⟩⟩

/-- Two tokens that differ at most in number and line, by as much as the counts given first for
the one token differ from those given for the other. -/
structure Token.Displaced (ids lines otherIds otherLines : ν) (token other : Token ν) : Prop where
  kind_eq : token.kind = other.kind
  symbol_eq : token.symbol = other.symbol
  column_eq : token.position.column = other.position.column
  id_eq : token.id + otherIds = other.id + ids
  line_eq : token.position.line + otherLines = other.position.line + lines

omit [Add ν] in
/-- Lines that begin further down. -/
theorem placed_add (quote : Option Char) (lead first : ℕ) (lines : List String) :
    (placed quote (lead + first) lines : List (ℕ × Lexeme ν)) =
      (placed quote first lines).map (Prod.map (lead + ·) id) := by
  induction lines generalizing quote first with
  | nil => rfl
  | cons line lines ih =>
      rw [placed_cons, placed_cons, Nat.add_assoc, ih, List.map_append, List.map_map]
      rfl

variable [LawfulAdd ν]

/-- Tokens that are numbered from further on. -/
theorem numbered_add (ids lines first : ℕ) (found : List (ℕ × Lexeme ν)) :
    numbered (ids + first) (found.map (Prod.map (lines + ·) id)) =
      (numbered first found).map (Token.shifted (count ids) (count lines)) := by
  induction found generalizing first with
  | nil => rfl
  | cons lexeme rest ih =>
      rw [List.map_cons, ← List.singleton_append, numbered_append,
        ← List.singleton_append (l := rest), numbered_append, List.map_append,
        List.length_singleton, List.length_singleton, Nat.add_assoc, ih]
      simp [numbered, Token.shifted, count_add, LawfulAdd.add_comm (count ids : ν),
        LawfulAdd.add_comm (count lines : ν)]

namespace Token

/-- Moving a token by different numbers displaces it by their difference. -/
theorem displaced_shifted (ids lines otherIds otherLines : ν) (token : Token ν) :
    Displaced ids lines otherIds otherLines (token.shifted ids lines)
      (token.shifted otherIds otherLines) where
  kind_eq := rfl
  symbol_eq := rfl
  column_eq := rfl
  id_eq := by
    simp only [shifted, LawfulAdd.add_assoc, LawfulAdd.add_comm otherIds]
  line_eq := by
    simp only [shifted, LawfulAdd.add_assoc, LawfulAdd.add_comm otherLines]

end Token

namespace Lexer

theorem emitted_between (quote : Option Char) (taken emitted : ℕ) :
    (between quote taken emitted : Lexer ν).emitted = count emitted :=
  LawfulAdd.previous_next _

/-- Further lines have the tokens of a fresh run inside the same literal, moved on. -/
theorem toList_feedAll_between (quote : Option Char) (taken emitted : ℕ) (lines : List String) :
    ((between quote taken emitted : Lexer ν).feedAll lines).1.toList =
      (numbered 1 (placed quote 1 lines)).map (Token.shifted (count emitted) (count taken)) := by
  rw [feedAll_between, placed_add, numbered_add]

end Lexer

/-- Behind a beginning that leaves no literal open. -/
theorem tokenize_append_of_quote_eq_none {lines : List String}
    (hquote : (Lexer.fed lines : Lexer ν).state.quote = none) (rest : List String) :
    (tokenize (lines ++ rest) : List (Token ν)) =
      tokenize lines ++ (tokenize rest).map
        (Token.shifted (count (tokenize lines : List (Token ν)).length) (count lines.length)) := by
  have hrest : ((Lexer.fed lines : Lexer ν).feedAll rest).1.toList =
      (tokenize rest).map
        (Token.shifted (count (tokenize lines : List (Token ν)).length) (count lines.length)) := by
    simp only [Lexer.fed_eq_between, Lexer.state_between, State.quote_within] at hquote
    rw [Lexer.fed_eq_between, hquote, Lexer.toList_feedAll_between, tokenize, tokenize,
      Lexer.feedAll_start, Lexer.feedAll_start, TwoPass.tokens, TwoPass.tokens, length_numbered]
  rw [← hrest, tokenize, Lexer.feedAll_append, Array.toList_append]
  rfl

/-- **Lines behind two beginnings** that leave the same literal open have the same tokens up to
a shift of their ids, by the numbers of tokens before, and of their lines, by the numbers of
lines before, and end in the same state.  Behind a beginning that leaves no literal open they
have the tokens that they have by themselves, shifted. -/
theorem feedAll_of_quote_eq (lines others rest : List String) :
    ((Lexer.fed lines : Lexer ν).state.quote = (Lexer.fed others : Lexer ν).state.quote →
      List.Forall₂
          (Token.Displaced (Lexer.fed lines : Lexer ν).emitted (count lines.length)
            (Lexer.fed others : Lexer ν).emitted (count others.length))
          ((Lexer.fed lines).feedAll rest).1.toList ((Lexer.fed others).feedAll rest).1.toList ∧
        ((Lexer.fed lines : Lexer ν).feedAll rest).2.state =
          ((Lexer.fed others : Lexer ν).feedAll rest).2.state) ∧
    ((Lexer.fed lines : Lexer ν).state.quote = none →
      (tokenize (lines ++ rest) : List (Token ν)) =
        tokenize lines ++ (tokenize rest).map
          (Token.shifted (count (tokenize lines : List (Token ν)).length)
            (count lines.length))) := by
  constructor
  · intro hquote
    simp only [Lexer.fed_eq_between, Lexer.state_between, State.quote_within] at hquote ⊢
    constructor
    · -- Both runs are moved runs inside the same literal.
      rw [Lexer.toList_feedAll_between, Lexer.toList_feedAll_between, hquote,
        Lexer.emitted_between, Lexer.emitted_between, List.forall₂_map_left_iff,
        List.forall₂_map_right_iff, List.forall₂_same]
      intro token _
      exact token.displaced_shifted _ _ _ _
    · rw [Lexer.feedAll_between, Lexer.feedAll_between, hquote, Lexer.state_between,
        Lexer.state_between]
  · intro hquote
    exact tokenize_append_of_quote_eq_none hquote rest

/-- A line behind two texts that leave an apostrophe open, and behind one that does not. -/
theorem feedAll_behind_apostrophe :
    ((Lexer.fed ["a = 'x", "b"] : Lexer UInt64).state.quote =
        (Lexer.fed ["'\""] : Lexer UInt64).state.quote ∧
      List.Forall₂
        (Token.Displaced (Lexer.fed ["a = 'x", "b"] : Lexer UInt64).emitted 2
          (Lexer.fed ["'\""] : Lexer UInt64).emitted 1)
        ((Lexer.fed ["a = 'x", "b"]).feedAll ["c d' e"]).1.toList
        ((Lexer.fed ["'\""]).feedAll ["c d' e"]).1.toList) ∧
    ((Lexer.fed ["a = '';"] : Lexer UInt64).state.quote = none ∧
      (tokenize ["a = '';", "c d"] : List (Token UInt64)) =
        tokenize ["a = '';"] ++ (tokenize ["c d"]).map (Token.shifted 5 1)) := by
  have hopen : (Lexer.fed ["a = 'x", "b"] : Lexer UInt64).state.quote =
      (Lexer.fed ["'\""] : Lexer UInt64).state.quote := by decide +kernel
  have hclosed : (Lexer.fed ["a = '';"] : Lexer UInt64).state.quote = none := by decide +kernel
  have hlength : (tokenize ["a = '';"] : List (Token UInt64)).length = 5 := by decide +kernel
  have hshift := (feedAll_of_quote_eq ["a = '';"] [] ["c d"]).2 hclosed
  rw [hlength] at hshift
  exact ⟨⟨hopen, ((feedAll_of_quote_eq _ _ ["c d' e"]).1 hopen).1⟩, hclosed, hshift⟩

end EbnfLexer

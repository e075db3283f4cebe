import EbnfLexer.Proofs.Contents
import Mathlib.Algebra.Ring.Parity

/-!
# Quotes pair up

Some of the quotes of a text open or close literals, and the others are text
inside the literal of the other quote.  `Literal.boundaries` are the former, and
they are exactly the quotes that become tokens of their own
(`map_symbol_quoteTokens`).

They come in pairs, an opening quote and the same quote again, and a quote
without a partner at the end is the literal that is left open.  `Paired` says
this of quotes alone, and everything about places and parities follows from it
by induction.  No other character plays a part: taking all of them out leaves
the boundaries as they are.
-/

namespace EbnfLexer

open Counter Scan TwoPass

namespace Scan.Literal

/-- The quotes of a text that open or close a literal. -/
def boundaries : Option Char → List Char → List Char
  | _, [] => []
  | quote, c :: rest =>
      if isQuote c && delimits quote c then c :: boundaries (next quote c) rest
      else boundaries (next quote c) rest

theorem boundaries_cons_of_not_isQuote {quote : Option Char} {c : Char} {rest : List Char}
    (h : isQuote c = false) : boundaries quote (c :: rest) = boundaries quote rest := by
  simp [boundaries, h, next_of_not_isQuote]

theorem boundaries_none_cons {c : Char} {rest : List Char} (h : isQuote c) :
    boundaries none (c :: rest) = c :: boundaries (some c) rest := by
  simp [boundaries, delimits, next, h, isSign_of_isQuote h]

theorem boundaries_some_cons_self {c : Char} {rest : List Char} (h : isQuote c) :
    boundaries (some c) (c :: rest) = c :: boundaries none rest := by
  simp [boundaries, delimits, next, h, isSign_of_isQuote h]

theorem boundaries_append (quote : Option Char) (characters others : List Char) :
    boundaries quote (characters ++ others) =
      boundaries quote characters ++ boundaries (after quote characters) others := by
  induction characters generalizing quote with
  | nil => rfl
  | cons c rest ih =>
      rw [List.cons_append, boundaries, boundaries, after_cons, ih]
      split
      · rfl
      · rfl

theorem boundaries_of_not_delimits {quote : Option Char} {characters : List Char}
    (h : ∀ c ∈ characters, delimits quote c = false) : boundaries quote characters = [] := by
  induction characters with
  | nil => rfl
  | cons c rest ih =>
      have hc : delimits quote c = false := h c (List.mem_cons_self ..)
      rw [boundaries, hc, Bool.and_false, if_neg Bool.false_ne_true, next_of_not_delimits hc]
      refine ih ?_
      intro other hother
      exact h other (List.mem_cons_of_mem _ hother)

@[simp] theorem boundaries_stripped (quote : Option Char) (line : String) :
    boundaries quote (stripped line) = boundaries quote line.toList := by
  rcases stripped_cases line with hline | ⟨_, hline⟩
  · have hspace : boundaries (after quote (stripped line)) [' '] = [] :=
      boundaries_of_not_delimits (by simp)
    rw [hline, boundaries_append, hspace, List.append_nil]
  · rw [hline]

/-- The quotes of a text decide alone what is opened and closed in it. -/
theorem boundaries_filter_isQuote (quote : Option Char) (characters : List Char) :
    boundaries quote (characters.filter isQuote) = boundaries quote characters := by
  induction characters generalizing quote with
  | nil => rfl
  | cons c rest ih =>
      cases hquote : isQuote c with
      | false =>
          rw [List.filter_cons_of_neg (by simp [hquote]), ih,
            boundaries_cons_of_not_isQuote hquote]
      | true => rw [List.filter_cons_of_pos hquote, boundaries, boundaries, ih]

/-- The quotes of a text decide alone which literal is around its end. -/
theorem after_filter_isQuote (quote : Option Char) (characters : List Char) :
    after quote (characters.filter isQuote) = after quote characters := by
  induction characters generalizing quote with
  | nil => rfl
  | cons c rest ih =>
      cases hquote : isQuote c with
      | false =>
          rw [List.filter_cons_of_neg (by simp [hquote]), ih, after_cons,
            next_of_not_isQuote quote hquote]
      | true => rw [List.filter_cons_of_pos hquote, after_cons, after_cons, ih]

/-! ## Pairs -/

/-- Quotes that open and close literals in turn, and the literal that they leave open. -/
inductive Paired : List Char → Option Char → Prop where
  /-- No literal at all. -/
  | closed : Paired [] none
  /-- A literal that is never closed. -/
  | opened (quote : Char) : Paired [quote] (some quote)
  /-- A literal that is closed, and others after it. -/
  | pair (quote : Char) {quotes : List Char} {left : Option Char} :
      Paired quotes left → Paired (quote :: quote :: quotes) left

/-- The boundaries of a text pair up once the quote that opened the literal around its
beginning is put before them. -/
theorem paired_boundaries (quote : Option Char) (characters : List Char) :
    Paired (quote.toList ++ boundaries quote characters) (after quote characters) := by
  induction characters generalizing quote with
  | nil =>
      cases quote with
      | none => exact Paired.closed
      | some opening => exact Paired.opened opening
  | cons c rest ih =>
      -- What is paired so far goes on with `c`: it is no quote, opens, closes, or is text.
      rw [after_cons]
      cases hquote : isQuote c with
      | false =>
          rw [boundaries_cons_of_not_isQuote hquote, next_of_not_isQuote quote hquote]
          exact ih quote
      | true =>
          cases quote with
          | none =>
              rw [boundaries_none_cons hquote]
              simpa [next, hquote] using ih (some c)
          | some opening =>
              by_cases hsame : opening = c
              · subst hsame
                rw [boundaries_some_cons_self hquote]
                simpa [next, hquote] using Paired.pair opening (ih none)
              · -- The other quote is text, and the literal stays open.
                have htext : delimits (some opening) c = false := by
                  simp [delimits, hquote, hsame]
                rw [boundaries, htext, Bool.and_false, if_neg Bool.false_ne_true,
                  next_of_not_delimits htext]
                exact ih (some opening)

namespace Paired

variable {quotes : List Char} {left : Option Char}

/-- A quote at an even place is the same as the one after it, if there is one. -/
theorem getElem?_eq (h : Paired quotes left) {k : ℕ} {second : Char}
    (hsecond : quotes[2 * k + 1]? = some second) : quotes[2 * k]? = some second := by
  induction h generalizing k with
  | closed => simp at hsecond
  | opened quote => simp at hsecond
  | pair quote hrest ih =>
      cases k with
      | zero => exact hsecond
      | succ k =>
          rw [Nat.mul_succ, List.getElem?_cons_succ, List.getElem?_cons_succ] at hsecond ⊢
          exact ih hsecond

/-- A literal is left open exactly behind an odd number of quotes. -/
theorem isSome_iff_odd (h : Paired quotes left) : left.isSome ↔ Odd quotes.length := by
  induction h with
  | closed => simp
  | opened quote => simp
  | pair quote hrest ih =>
      rw [ih, List.length_cons, List.length_cons, Nat.odd_add_one, Nat.odd_add_one, not_not]

/-- The literal that is left open was opened by the last quote. -/
theorem getLast?_eq (h : Paired quotes left) {quote : Char} (hleft : left = some quote) :
    quotes.getLast? = some quote := by
  induction h with
  | closed => cases hleft
  | opened opening => exact hleft
  | pair opening hrest ih =>
      rw [List.getLast?_cons, List.getLast?_cons, ih hleft, Option.getD_some, Option.getD_some]

end Paired

end Scan.Literal

/-! ## Words and tokens -/

/-- The symbols of the words that are quotes. -/
def quoteSymbols (words : List (Kind × String)) : List String :=
  (words.filter fun word => word.1 == .terminalQuote).map Prod.snd

theorem quoteSymbols_append (words others : List (Kind × String)) :
    quoteSymbols (words ++ others) = quoteSymbols words ++ quoteSymbols others := by
  rw [quoteSymbols, List.filter_append, List.map_append]
  rfl

theorem quoteSymbols_segmentWords (quote : Option Char) (characters : List Char) :
    quoteSymbols (segmentWords quote characters) = [] := by
  unfold segmentWords
  split
  · rfl
  · rfl

theorem quoteSymbols_cons_sign (c : Char) (words : List (Kind × String)) :
    quoteSymbols ((.ofSign c, String.singleton c) :: words) =
      if isQuote c then String.singleton c :: quoteSymbols words else quoteSymbols words := by
  by_cases hquote : isQuote c
  · have hkind : Kind.ofSign c = .terminalQuote := Kind.ofSign_eq_terminalQuote_iff.mpr hquote
    simp [quoteSymbols, hkind, hquote]
  · have hkind : Kind.ofSign c ≠ .terminalQuote := by
      intro hkind
      exact hquote (Kind.ofSign_eq_terminalQuote_iff.mp hkind)
    simp [quoteSymbols, hkind, hquote]

/-- The words of a line that are quotes are its boundaries. -/
theorem quoteSymbols_words (quote : Option Char) (characters : List Char) :
    quoteSymbols (words quote characters) =
      (Literal.boundaries quote characters).map String.singleton := by
  induction quote, characters using Literal.cut_induction with
  | segment quote characters h =>
      rw [words_segment h, quoteSymbols_segmentWords, Literal.boundaries_of_not_delimits h,
        List.map_nil]
  | cut quote characters c rest h hc ih =>
      -- Before the delimiter there is nothing on either side.
      have hwords : quoteSymbols (words quote (characters ++ c :: rest)) =
          quoteSymbols ((.ofSign c, String.singleton c) :: words (Literal.next quote c) rest) := by
        rw [words_cut h hc, quoteSymbols_append, quoteSymbols_segmentWords, List.nil_append]
      have hboundaries : Literal.boundaries quote (characters ++ c :: rest) =
          Literal.boundaries quote (c :: rest) := by
        rw [Literal.boundaries_append, Literal.boundaries_of_not_delimits h,
          Literal.after_of_not_delimits h, List.nil_append]
      rw [hwords, hboundaries, quoteSymbols_cons_sign, Literal.boundaries, hc, Bool.and_true, ih]
      split
      · rfl
      · rfl

theorem quoteSymbols_contents (quote : Option Char) (first : ℕ) (lines : List String) :
    quoteSymbols ((contents quote first lines).map Prod.snd) =
      (Literal.boundaries quote (lines.flatMap String.toList)).map String.singleton := by
  induction lines generalizing quote first with
  | nil => rfl
  | cons line lines ih =>
      have hline : ((words quote (stripped line)).map fun word => (first, word)).map Prod.snd =
          words quote (stripped line) := by
        rw [List.map_map]
        exact List.map_id _
      rw [contents, List.map_append, hline, quoteSymbols_append, quoteSymbols_words, ih,
        Literal.boundaries_stripped, List.flatMap_cons, Literal.boundaries_append,
        List.map_append]

variable {ν : Type} [Counter ν]

variable (ν) in
/-- The tokens of a text that are quotes. -/
def quoteTokens (lines : List String) : List (Token ν) :=
  (tokenize lines).filter fun token => token.kind == .terminalQuote

/-- The quotes among the tokens of a text are its boundaries. -/
theorem map_symbol_quoteTokens (lines : List String) :
    (quoteTokens ν lines).map Token.symbol =
      (Literal.boundaries none (lines.flatMap String.toList)).map String.singleton := by
  have hcontent : (quoteTokens ν lines).map Token.symbol =
      quoteSymbols (((tokenize lines : List (Token ν)).map Token.content).map Prod.snd) := by
    rw [quoteSymbols, List.map_map, List.filter_map, List.map_map]
    rfl
  rw [hcontent, map_content_tokenize, List.map_map, ← quoteSymbols_contents none 1]
  rfl

theorem length_quoteTokens (lines : List String) :
    (quoteTokens ν lines).length =
      (Literal.boundaries none (lines.flatMap String.toList)).length := by
  rw [← List.length_map Token.symbol, map_symbol_quoteTokens, List.length_map]

/-- The place of a token among the quotes is its place among the boundaries. -/
theorem exists_boundary_of_quoteTokens {lines : List String} {place : ℕ} {token : Token ν}
    (h : (quoteTokens ν lines)[place]? = some token) :
    ∃ quote, (Literal.boundaries none (lines.flatMap String.toList))[place]? = some quote ∧
      String.singleton quote = token.symbol := by
  have hsymbol : ((quoteTokens ν lines).map Token.symbol)[place]? = some token.symbol := by
    rw [List.getElem?_map, h, Option.map_some]
  rw [map_symbol_quoteTokens, List.getElem?_map] at hsymbol
  exact Option.map_eq_some_iff.mp hsymbol

/-- **Quotes pair up, and nothing but quotes matters to them.**  Each quote at an even place
among the quotes of a run is followed by the same quote, if by any.  A run ends inside a literal
exactly if the number of its quotes is odd; the last one is then the quote that opened the
literal.  Texts with the same quotes yield the same quotes and end in the same literal. -/
theorem quoteTokens_pair_up (lines : List String) :
    (∀ k first second, (quoteTokens ν lines)[2 * k]? = some first →
      (quoteTokens ν lines)[2 * k + 1]? = some second → first.symbol = second.symbol) ∧
    ((∃ quote start, (Lexer.fed lines : Lexer ν).state = .inLiteral quote start) ↔
      Odd (quoteTokens ν lines).length) ∧
    (∀ quote start, (Lexer.fed lines : Lexer ν).state = .inLiteral quote start →
      (quoteTokens ν lines).getLast?.map Token.symbol = some (String.singleton quote)) ∧
    (¬Odd (quoteTokens ν lines).length → (Lexer.fed lines : Lexer ν).state = .idle) ∧
    ∀ others : List String,
      (lines.flatMap String.toList).filter isQuote =
        (others.flatMap String.toList).filter isQuote →
      (quoteTokens ν lines).map Token.symbol = (quoteTokens ν others).map Token.symbol ∧
        (Lexer.fed lines : Lexer ν).state.quote = (Lexer.fed others : Lexer ν).state.quote := by
  set characters : List Char := lines.flatMap String.toList
  have hpaired : Literal.Paired (Literal.boundaries none characters)
      (Literal.after none characters) := Literal.paired_boundaries none characters
  have hodd : (Literal.after none characters).isSome ↔ Odd (quoteTokens ν lines).length := by
    rw [length_quoteTokens]
    exact hpaired.isSome_iff_odd
  have hstate : (Lexer.fed lines : Lexer ν).state =
      .within (Literal.after none characters) none := Lexer.state_fed lines
  refine ⟨?pairs, ?parity, ?last, ?outside, ?same⟩
  case pairs =>
    intro k first second hfirst hsecond
    obtain ⟨opening, hopening, hfirst⟩ := exists_boundary_of_quoteTokens hfirst
    obtain ⟨closing, hclosing, hsecond⟩ := exists_boundary_of_quoteTokens hsecond
    have hsame : some opening = some closing :=
      hopening.symm.trans (hpaired.getElem?_eq hclosing)
    rw [← hfirst, ← hsecond, Option.some.inj hsame]
  case parity =>
    rw [← hodd, hstate]
    cases Literal.after none characters with
    | none => simp [State.within]
    | some opening => simp [State.within]
  case last =>
    intro quote start hinside
    have hleft : Literal.after none characters = some quote := by
      rw [← State.quote_within (ν := ν) (Literal.after none characters) none, ← hstate, hinside]
      rfl
    rw [← List.getLast?_map, map_symbol_quoteTokens, List.getLast?_map,
      hpaired.getLast?_eq hleft, Option.map_some]
  case outside =>
    intro heven
    have hleft : Literal.after none characters = none := by
      simpa using hodd.not.mpr heven
    rw [hstate, hleft]
    rfl
  case same =>
    intro others hsame
    have hboundaries : Literal.boundaries none characters =
        Literal.boundaries none (others.flatMap String.toList) := by
      rw [← Literal.boundaries_filter_isQuote, hsame, Literal.boundaries_filter_isQuote]
    have hafter : Literal.after none characters =
        Literal.after none (others.flatMap String.toList) := by
      rw [← Literal.after_filter_isQuote, hsame, Literal.after_filter_isQuote]
    constructor
    · rw [map_symbol_quoteTokens, map_symbol_quoteTokens, ← hboundaries]
    · rw [hstate, Lexer.state_fed, hafter]

/-- A literal over a line end with the other quote inside it, and one that is left open. -/
theorem quoteTokens_pair_up_over_line_end :
    ((quoteTokens UInt64 ["a 'x", "\"y' b"])[0]? = some ⟨2, .terminalQuote, "'", ⟨1, 3⟩⟩ ∧
      (quoteTokens UInt64 ["a 'x", "\"y' b"])[1]? = some ⟨5, .terminalQuote, "'", ⟨2, 3⟩⟩ ∧
      (⟨2, .terminalQuote, "'", ⟨1, 3⟩⟩ : Token UInt64).symbol =
        (⟨5, .terminalQuote, "'", ⟨2, 3⟩⟩ : Token UInt64).symbol) ∧
    ((Lexer.fed ["'", "b\""] : Lexer UInt64).state = .inLiteral '\'' none ∧
      (quoteTokens UInt64 ["'", "b\""]).getLast?.map Token.symbol =
        some (String.singleton '\'')) ∧
    (¬Odd (quoteTokens UInt64 ["a 'x", "\"y' b"]).length ∧
      (Lexer.fed ["a 'x", "\"y' b"] : Lexer UInt64).state = .idle) ∧
    (["a 'x", "\"y' b"].flatMap String.toList).filter isQuote =
      (["=' \"", "'"].flatMap String.toList).filter isQuote ∧
    (quoteTokens UInt64 ["a 'x", "\"y' b"]).map Token.symbol =
      (quoteTokens UInt64 ["=' \"", "'"]).map Token.symbol ∧
    (Lexer.fed ["a 'x", "\"y' b"] : Lexer UInt64).state.quote =
      (Lexer.fed ["=' \"", "'"] : Lexer UInt64).state.quote := by
  have hfirst : (quoteTokens UInt64 ["a 'x", "\"y' b"])[2 * 0]? =
      some ⟨2, .terminalQuote, "'", ⟨1, 3⟩⟩ := by decide +kernel
  have hsecond : (quoteTokens UInt64 ["a 'x", "\"y' b"])[2 * 0 + 1]? =
      some ⟨5, .terminalQuote, "'", ⟨2, 3⟩⟩ := by decide +kernel
  have hinside : (Lexer.fed ["'", "b\""] : Lexer UInt64).state = .inLiteral '\'' none := by
    decide +kernel
  have heven : ¬Odd (quoteTokens UInt64 ["a 'x", "\"y' b"]).length := by decide +kernel
  have hsame : (["a 'x", "\"y' b"].flatMap String.toList).filter isQuote =
      (["=' \"", "'"].flatMap String.toList).filter isQuote := by decide +kernel
  obtain ⟨hpairs, -, -, houtside, hothers⟩ :=
    quoteTokens_pair_up (ν := UInt64) ["a 'x", "\"y' b"]
  obtain ⟨-, -, hlast, -, -⟩ := quoteTokens_pair_up (ν := UInt64) ["'", "b\""]
  exact ⟨⟨hfirst, hsecond, hpairs 0 _ _ hfirst hsecond⟩, ⟨hinside, hlast '\'' none hinside⟩,
    ⟨heven, houtside heven⟩, hsame, hothers _ hsame⟩

end EbnfLexer

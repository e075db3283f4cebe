import EbnfLexer.Proofs.WordChain

/-!
# The shape of a stream of tokens

What a token can be depends on the literal around it, and which literal that is
can be read off the tokens before it: with an even number of quotes before it a
token is outside literals, and with an odd number it is inside the literal of the
last of them.  `Token.FitsBehind` says what a token can be behind others, and
`WellFormed` that every token of a stream fits behind those before it and that no
two texts of one line follow each other.

The words of tokens are chained.  That the literal which a chain leaves open is
the one that its quotes decide is what `Paired` says of the boundaries of a text,
applied to the characters of the tokens before (`fitsBehind_of_fits`).
-/

namespace EbnfLexer

open Counter Scan

variable {ν : Type}

/-- The quotes among tokens. -/
def quotesAmong (tokens : List (Token ν)) : List (Token ν) :=
  tokens.filter fun token => token.kind == .terminalQuote

/-- What a token can be behind other tokens. -/
structure Token.FitsBehind (before : List (Token ν)) (token : Token ν) : Prop where
  /-- What is no text is a single sign, of the kind of this sign. -/
  sign : token.kind ≠ .identifier →
    ∃ c, isSign c ∧ token.symbol = String.singleton c ∧ token.kind = .ofSign c
  /-- Behind an even number of quotes, text has neither signs nor spaces. -/
  outside : Even (quotesAmong before).length → token.kind = .identifier →
    ∀ c ∈ token.symbol.toList, isSign c = false ∧ c ≠ ' '
  /-- Behind an odd number of quotes, the opposite of the last one is text, and the only sign that
  is. -/
  inside : Odd (quotesAmong before).length → ∃ quote, isQuote quote ∧
    (quotesAmong before).getLast?.map Token.symbol = some (String.singleton quote) ∧
    (token.kind ≠ .identifier → token.symbol ≠ String.singleton (Literal.opposite quote)) ∧
    (token.kind = .identifier → ∀ c ∈ token.symbol.toList, isSign c → c = Literal.opposite quote)
  /-- No white space is around a symbol. -/
  trimmed : Text.trim token.symbol.toList = token.symbol.toList

/-- What a stream of tokens is like. -/
structure WellFormed (tokens : List (Token ν)) : Prop where
  /-- Every token fits behind those before it. -/
  fitsBehind : ∀ before token after, tokens = before ++ token :: after → token.FitsBehind before
  /-- Texts that follow each other are on different lines. -/
  maximal : tokens.IsChain fun token next =>
    token.kind = .identifier → next.kind = .identifier → token.position.line ≠ next.position.line

/-- The kind and the symbol of a token. -/
def Token.word (token : Token ν) : Kind × String := (token.kind, token.symbol)

theorem map_symbol_quotesAmong (tokens : List (Token ν)) :
    (quotesAmong tokens).map Token.symbol = quoteSymbols (tokens.map Token.word) := by
  rw [quoteSymbols, quotesAmong, List.filter_map, List.map_map]
  rfl

/-- A word that fits into the literal that chained words leave open is a token that fits behind
them. -/
theorem fitsBehind_of_fits {before : List (Token ν)} {token : Token ν}
    (hbefore : Chained none (before.map Token.word))
    (htoken : Fits (Literal.after none (spelled (before.map Token.word))) token.word) :
    token.FitsBehind before := by
  set characters := spelled (before.map Token.word)
  have hpaired : Literal.Paired (Literal.boundaries none characters)
      (Literal.after none characters) := Literal.paired_boundaries none characters
  have hsymbols : (quotesAmong before).map Token.symbol =
      (Literal.boundaries none characters).map String.singleton := by
    rw [map_symbol_quotesAmong, hbefore.quoteSymbols_eq]
  have hodd : (Literal.after none characters).isSome ↔ Odd (quotesAmong before).length := by
    rw [hpaired.isSome_iff_odd, ← List.length_map String.singleton, ← hsymbols, List.length_map]
  have hquotes : ∀ quote ∈ Literal.after none characters, isQuote quote :=
    Literal.isQuote_of_mem_after (by simp) characters
  refine ⟨?sign, ?outside, ?inside, htoken.trim_symbol⟩
  case sign =>
    intro hkind
    obtain ⟨c, hc, hsymbol, hkind⟩ := htoken.exists_sign hkind
    exact ⟨c, Literal.isSign_of_delimits hc, hsymbol, hkind⟩
  case outside =>
    intro heven hkind
    have hnone : Literal.after none characters = none := by
      have : ¬Odd (quotesAmong before).length := Nat.not_odd_iff_even.mpr heven
      simpa using hodd.not.mpr this
    rw [hnone] at htoken
    intro c hc
    have hsign : Literal.delimits none c = false := htoken.not_delimits hkind c hc
    rw [Literal.delimits_none] at hsign
    exact ⟨hsign, htoken.ne_space hkind c hc⟩
  case inside =>
    intro hcount
    obtain ⟨quote, hquote⟩ := Option.isSome_iff_exists.mp (hodd.mpr hcount)
    rw [hquote] at htoken
    have hisQuote : isQuote quote := hquotes quote hquote
    refine ⟨quote, hisQuote, ?last, ?other, ?only⟩
    case last =>
      rw [← List.getLast?_map, hsymbols, List.getLast?_map, hpaired.getLast?_eq hquote,
        Option.map_some]
    case other =>
      intro hkind hsymbol
      obtain ⟨c, hc, hsingle, -⟩ := htoken.exists_sign hkind
      -- The sign is a delimiter, which the opposite quote is not.
      have hsame : c = Literal.opposite quote := by
        have := hsingle.symm.trans hsymbol
        simpa using congrArg String.toList this
      rw [hsame, Literal.delimits_opposite hisQuote] at hc
      contradiction
    case only =>
      intro hkind c hc hsign
      exact Literal.eq_opposite hisQuote hsign (htoken.not_delimits hkind c hc)

variable [Counter ν]

/-- The tokens of a text are well formed as long as the counter tells its lines apart. -/
theorem wellFormed_of_faithful {lines : List String} (h : Faithful ν lines.length) :
    WellFormed (tokenize lines : List (Token ν)) := by
  have hcontent : (tokenize lines : List (Token ν)).map Token.content =
      (contents none 1 lines).map (Prod.map count id) := map_content_tokenize lines
  have hwords : (tokenize lines : List (Token ν)).map Token.word =
      (contents none 1 lines).map Prod.snd := by
    have := congrArg (List.map Prod.snd) hcontent
    rw [List.map_map, List.map_map] at this
    exact this
  refine ⟨?fits, ?maximal⟩
  case fits =>
    intro before token after hsplit
    have hchained : Chained none (before.map Token.word ++ token.word :: after.map Token.word) := by
      rw [← List.map_cons, ← List.map_append, ← hsplit, hwords]
      exact chained_contents none 1 lines
    obtain ⟨hbefore, hafter⟩ := hchained.of_append
    cases hafter with
    | cons htoken _ => exact fitsBehind_of_fits hbefore htoken
  case maximal =>
    have hlines : ((contents none 1 lines).map (Prod.map (count : ℕ → ν) id)).IsChain
        fun content next =>
          content.2.1 = .identifier → next.2.1 = .identifier → content.1 ≠ next.1 := by
      refine (List.isChain_map _).mpr ((isChain_contents none 1 lines).imp_of_mem_imp ?_)
      intro content next hmem hnextMem hne hkind hnextKind
      have hline := (line_of_mem_contents hmem).2
      have hnextLine := (line_of_mem_contents hnextMem).2
      exact h.count_ne (by omega) (by omega) (hne hkind hnextKind)
    rw [← hcontent] at hlines
    exact (List.isChain_map _).mp hlines

/-- **A stream of tokens is well formed.**  What a token can be is decided by the quotes before
it: a sign has its kind and is not the opposite of the quote that is open, text has no sign but this
one, and no space outside literals; symbols are trimmed, and two texts that follow each other are on
different lines.  In machine words this holds as long as the lines can be numbered. -/
theorem wellFormed_tokenize (lines : List String) :
    WellFormed (tokenize lines : List (Token ℕ)) ∧
      (lines.length < UInt64.size → WellFormed (tokenize lines : List (Token UInt64))) := by
  constructor
  · exact wellFormed_of_faithful (faithful_nat _)
  · intro hlines
    exact wellFormed_of_faithful (faithful_uint64 hlines)

/-- A literal over a line end: the text behind the line end has the opposite quote in it. -/
theorem wellFormed_over_line_end :
    ["a 'x", "\"y' b"].length < UInt64.size ∧
    WellFormed (tokenize ["a 'x", "\"y' b"] : List (Token UInt64)) ∧
    (tokenize ["a 'x", "\"y' b"] : List (Token UInt64)) =
      [⟨1, .identifier, "a", ⟨1, 1⟩⟩, ⟨2, .terminalQuote, "'", ⟨1, 3⟩⟩,
        ⟨3, .identifier, "x", ⟨1, 4⟩⟩] ++ ⟨4, .identifier, "\"y", ⟨2, 1⟩⟩ ::
        [⟨5, .terminalQuote, "'", ⟨2, 3⟩⟩, ⟨6, .identifier, "b", ⟨2, 5⟩⟩] ∧
    (⟨4, .identifier, "\"y", ⟨2, 1⟩⟩ : Token UInt64).FitsBehind
      [⟨1, .identifier, "a", ⟨1, 1⟩⟩, ⟨2, .terminalQuote, "'", ⟨1, 3⟩⟩,
        ⟨3, .identifier, "x", ⟨1, 4⟩⟩] := by
  have hlines : ["a 'x", "\"y' b"].length < UInt64.size := by decide
  have hformed := (wellFormed_tokenize ["a 'x", "\"y' b"]).2 hlines
  have htokens : (tokenize ["a 'x", "\"y' b"] : List (Token UInt64)) =
      [⟨1, .identifier, "a", ⟨1, 1⟩⟩, ⟨2, .terminalQuote, "'", ⟨1, 3⟩⟩,
        ⟨3, .identifier, "x", ⟨1, 4⟩⟩] ++ ⟨4, .identifier, "\"y", ⟨2, 1⟩⟩ ::
        [⟨5, .terminalQuote, "'", ⟨2, 3⟩⟩, ⟨6, .identifier, "b", ⟨2, 5⟩⟩] := by decide +kernel
  exact ⟨hlines, hformed, htokens, hformed.fitsBehind _ _ _ htokens⟩

end EbnfLexer

import EbnfLexer.Proofs.QuotePairs
import EbnfLexer.Proofs.Reprint

/-!
# Words that fit one behind the other

What a word can be depends on the literal around it: `Fits` says what there is
inside each literal.  A word also decides which literal is around the next one, so
words come in chains (`Chained`), where each fits into the literal that those
before it leave open.

The words of a line are chained (`chained_words`, going down the cuts of the line),
chains are put together with `Chained.append`, and so the words of all lines are
chained (`chained_contents`).  No two texts of one line stand side by side in a
chain (`isChain_contents`), since what ends a text inside a line is a delimiter.
-/

namespace EbnfLexer

open Counter Scan TwoPass

namespace Scan

/-! ## Literals -/

namespace Literal

/-- The other one of the two quotes. -/
def opposite (quote : Char) : Char := if quote = '"' then '\'' else '"'

theorem isQuote_iff {c : Char} : isQuote c ↔ c = '\'' ∨ c = '"' := by
  simp [isQuote]

theorem isSign_of_delimits {quote : Option Char} {c : Char} (h : delimits quote c) : isSign c := by
  rw [delimits, Bool.and_eq_true] at h
  exact h.1

@[simp] theorem delimits_none (c : Char) : delimits none c = isSign c := by
  simp [delimits]

/-- Inside a literal the opposite quote is no delimiter. -/
theorem delimits_opposite {quote : Char} (h : isQuote quote) :
    delimits (some quote) (opposite quote) = false := by
  rcases isQuote_iff.mp h with rfl | rfl
  · decide
  · decide

/-- Inside a literal the opposite quote is the only sign that is no delimiter. -/
theorem eq_opposite {quote c : Char} (hquote : isQuote quote) (hsign : isSign c)
    (hc : delimits (some quote) c = false) : c = opposite quote := by
  obtain ⟨hother, hne⟩ : isQuote c ∧ quote ≠ c := by
    simpa [delimits, hsign] using hc
  rcases isQuote_iff.mp hquote with rfl | rfl
  · exact (isQuote_iff.mp hother).resolve_left (Ne.symm hne)
  · exact (isQuote_iff.mp hother).resolve_right (Ne.symm hne)

/-- Only a quote opens a literal. -/
theorem isQuote_of_mem_after {quote : Option Char} (h : ∀ opening ∈ quote, isQuote opening)
    (characters : List Char) : ∀ opening ∈ after quote characters, isQuote opening := by
  induction characters generalizing quote with
  | nil => exact h
  | cons c rest ih =>
      refine ih ?_
      intro opening hopening
      cases hc : isQuote c with
      | false =>
          rw [next_of_not_isQuote quote hc] at hopening
          exact h opening hopening
      | true =>
          cases quote with
          | none =>
              obtain rfl : c = opening := by simpa [next, hc] using hopening
              exact hc
          | some before =>
              -- A quote closes the literal or leaves it as it is.
              have hsame : before = opening := by
                by_cases hcloses : before = c
                · simp [next, hc, hcloses] at hopening
                · simpa [next, hc, hcloses] using hopening
              exact hsame ▸ h before rfl

end Literal

/-! ## Words -/

/-- No sign is white space. -/
theorem isBlank_of_isSign {c : Char} (h : isSign c) : Text.isBlank c = false := by
  have hsigns : signs.all fun sign => !Text.isBlank sign := by decide
  simpa using List.all_eq_true.mp hsigns c (List.contains_iff_mem.mp h)

/-- What a word can be inside the literal of `quote`: a delimiter of this literal, or trimmed text
without delimiters, and outside literals without spaces. -/
inductive Fits (quote : Option Char) : Kind × String → Prop where
  | sign {c : Char} (h : Literal.delimits quote c) : Fits quote (.ofSign c, String.singleton c)
  | text {characters : List Char} (hsigns : ∀ c ∈ characters, Literal.delimits quote c = false)
      (hspaces : quote = none → ' ' ∉ characters) (htrim : Text.trim characters = characters) :
      Fits quote (.identifier, String.ofList characters)

/-- Words of which each fits into the literal that the words before it leave open. -/
inductive Chained : Option Char → List (Kind × String) → Prop where
  | nil (quote : Option Char) : Chained quote []
  | cons {quote : Option Char} {word : Kind × String} {rest : List (Kind × String)}
      (hword : Fits quote word) (hrest : Chained (Literal.after quote word.2.toList) rest) :
      Chained quote (word :: rest)

/-- The characters of words, one after the other. -/
def spelled (words : List (Kind × String)) : List Char := words.flatMap fun word => word.2.toList

namespace Fits

variable {quote : Option Char} {word : Kind × String}

theorem exists_sign (h : Fits quote word) (hkind : word.1 ≠ .identifier) :
    ∃ c, Literal.delimits quote c ∧ word.2 = String.singleton c ∧ word.1 = .ofSign c := by
  cases h with
  | @sign c hc => exact ⟨c, hc, rfl, rfl⟩
  | text => exact absurd rfl hkind

theorem not_delimits (h : Fits quote word) (hkind : word.1 = .identifier) :
    ∀ c ∈ word.2.toList, Literal.delimits quote c = false := by
  cases h with
  | @sign c hc => exact absurd hkind (Kind.ofSign_ne_identifier c)
  | text hsigns hspaces htrim =>
      rw [String.toList_ofList]
      exact hsigns

theorem ne_space (h : Fits none word) (hkind : word.1 = .identifier) :
    ∀ c ∈ word.2.toList, c ≠ ' ' := by
  cases h with
  | @sign c hc => exact absurd hkind (Kind.ofSign_ne_identifier c)
  | text hsigns hspaces htrim =>
      rw [String.toList_ofList]
      rintro c hc rfl
      exact hspaces rfl hc

theorem trim_symbol (h : Fits quote word) : Text.trim word.2.toList = word.2.toList := by
  cases h with
  | @sign c hc =>
      have hblank : Text.isBlank c = false := isBlank_of_isSign (Literal.isSign_of_delimits hc)
      rw [String.toList_singleton, Text.trim, List.dropWhile_cons_of_neg (by simp [hblank]),
        Text.trimEnd, List.reverse_singleton, List.dropWhile_cons_of_neg (by simp [hblank]),
        List.reverse_singleton]
  | text hsigns hspaces htrim => rw [String.toList_ofList, htrim]

end Fits

namespace Chained

variable {quote : Option Char} {words others : List (Kind × String)}

/-- Words go on in the literal that the words before them leave open. -/
theorem append (h : Chained quote words)
    (hothers : Chained (Literal.after quote (spelled words)) others) :
    Chained quote (words ++ others) := by
  induction h with
  | nil quote => exact hothers
  | cons hword hrest ih =>
      refine Chained.cons hword (ih ?_)
      rw [← Literal.after_append]
      exact hothers

theorem of_append (h : Chained quote (words ++ others)) :
    Chained quote words ∧ Chained (Literal.after quote (spelled words)) others := by
  induction words generalizing quote with
  | nil => exact ⟨Chained.nil quote, h⟩
  | cons word rest ih =>
      cases h with
      | cons hword hrest =>
          obtain ⟨hfront, hback⟩ := ih hrest
          refine ⟨Chained.cons hword hfront, ?_⟩
          rw [← Literal.after_append] at hback
          exact hback

/-- The quotes among chained words are the boundaries of their characters. -/
theorem quoteSymbols_eq (h : Chained quote words) :
    quoteSymbols words = (Literal.boundaries quote (spelled words)).map String.singleton := by
  induction h with
  | nil quote => rfl
  | @cons quote word rest hword hrest ih =>
      have hspelled : spelled (word :: rest) = word.2.toList ++ spelled rest := rfl
      rw [hspelled, Literal.boundaries_append, List.map_append, ← ih]
      cases hword with
      | @sign c hc =>
          rw [quoteSymbols_cons_sign, String.toList_singleton, Literal.boundaries, hc,
            Bool.and_true]
          split
          · rfl
          · rfl
      | @text characters hsigns hspaces htrim =>
          rw [String.toList_ofList, Literal.boundaries_of_not_delimits hsigns]
          rfl

end Chained

theorem fits_segmentText {quote : Option Char} {characters : List Char}
    (h : ∀ c ∈ characters, Literal.delimits quote c = false) :
    Fits quote (.identifier, String.ofList (segmentText quote characters)) := by
  refine Fits.text (not_delimits_segmentText h) ?_ (Text.trim_trim _)
  rintro rfl hspace
  have hkept := (List.mem_filter.mp (Text.mem_of_mem_trim hspace)).2
  exact absurd hkept (by decide)

theorem chained_segmentWords {quote : Option Char} {characters : List Char}
    (h : ∀ c ∈ characters, Literal.delimits quote c = false) :
    Chained quote (segmentWords quote characters) := by
  rw [segmentWords]
  split
  · exact Chained.nil quote
  · exact Chained.cons (fits_segmentText h) (Chained.nil _)

/-- The words of a line are chained. -/
theorem chained_words (quote : Option Char) (characters : List Char) :
    Chained quote (words quote characters) := by
  induction quote, characters using Literal.cut_induction with
  | segment quote characters h =>
      rw [words_segment h]
      exact chained_segmentWords h
  | cut quote characters c rest h hc ih =>
      have hopen : Literal.after quote (spelled (segmentWords quote characters)) = quote := by
        rw [spelled, flatMap_segmentWords]
        exact Literal.after_of_not_delimits (not_delimits_segmentText h)
      rw [words_cut h hc]
      refine (chained_segmentWords h).append ?_
      rw [hopen]
      refine Chained.cons (Fits.sign hc) ?_
      rw [String.toList_singleton]
      exact ih

/-- Two texts that follow each other are on different lines: between texts of one line there is a
delimiter. -/
theorem isChain_words (quote : Option Char) (characters : List Char) :
    (words quote characters).IsChain fun word next =>
      ¬(word.1 = .identifier ∧ next.1 = .identifier) := by
  induction quote, characters using Literal.cut_induction with
  | segment quote characters h =>
      rw [words_segment h, segmentWords]
      split
      · exact List.isChain_nil
      · exact List.isChain_singleton _
  | cut quote characters c rest h hc ih =>
      have hsign : Kind.ofSign c ≠ .identifier := Kind.ofSign_ne_identifier c
      have hrest : ((Kind.ofSign c, String.singleton c) ::
          words (Literal.next quote c) rest).IsChain fun word next =>
            ¬(word.1 = .identifier ∧ next.1 = .identifier) := by
        refine List.isChain_cons.mpr ⟨?_, ih⟩
        rintro next - ⟨hword, -⟩
        exact hsign hword
      rw [words_cut h hc, segmentWords]
      split
      · exact hrest
      · refine List.isChain_cons_cons.mpr ⟨?_, hrest⟩
        rintro ⟨-, hnext⟩
        exact hsign hnext

end Scan

/-! ## Lines -/

/-- The words of lines are chained, over line ends too. -/
theorem chained_contents (quote : Option Char) (first : ℕ) (lines : List String) :
    Chained quote ((contents quote first lines).map Prod.snd) := by
  induction lines generalizing quote first with
  | nil => exact Chained.nil quote
  | cons line lines ih =>
      have hline : ((words quote (stripped line)).map fun word => (first, word)).map Prod.snd =
          words quote (stripped line) := by
        rw [List.map_map]
        exact List.map_id _
      have hopen : Literal.after quote (spelled (words quote (stripped line))) =
          Literal.after quote line.toList :=
        (after_printed quote (stripped line)).trans (after_stripped quote line)
      rw [contents, List.map_append, hline]
      refine (chained_words quote (stripped line)).append ?_
      rw [hopen]
      exact ih _ _

theorem line_of_mem_contents {quote : Option Char} {first : ℕ} {lines : List String}
    {content : ℕ × Kind × String} (h : content ∈ contents quote first lines) :
    first ≤ content.1 ∧ content.1 < first + lines.length := by
  induction lines generalizing quote first with
  | nil => simp [contents] at h
  | cons line lines ih =>
      rw [List.length_cons]
      rcases List.mem_append.mp h with hline | hlines
      · obtain ⟨word, _, rfl⟩ := List.mem_map.mp hline
        exact ⟨le_refl _, by dsimp only; omega⟩
      · have := ih hlines
        omega

/-- Texts that follow each other are on different lines. -/
theorem isChain_contents (quote : Option Char) (first : ℕ) (lines : List String) :
    (contents quote first lines).IsChain fun content next =>
      content.2.1 = .identifier → next.2.1 = .identifier → content.1 ≠ next.1 := by
  induction lines generalizing quote first with
  | nil => exact List.isChain_nil
  | cons line lines ih =>
      refine List.IsChain.append ?_ (ih _ _) ?_
      · refine (List.isChain_map _).mpr ((isChain_words quote (stripped line)).imp ?_)
        intro word next hnot hword hnext
        exact absurd ⟨hword, hnext⟩ hnot
      · intro content hcontent next hnext _ _
        obtain ⟨word, _, rfl⟩ := List.mem_map.mp (List.mem_of_mem_getLast? hcontent)
        have := (line_of_mem_contents (List.mem_of_mem_head? hnext)).1
        dsimp only
        omega

end EbnfLexer

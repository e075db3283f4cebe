import EbnfLexer.Proofs.Scan.Segment

/-!
# Lines cut at their first delimiter

Every line is a segment, or a segment, a delimiter that ends it and a rest in
the literal behind the delimiter.  `Literal.cut_induction` goes down a line in
these steps.

Where columns do not matter a lexeme is a `word`, its kind and its symbol.  The
words of a line follow the same steps (`words_segment`, `words_cut`), so what
they have in common with the line is proved by going down its cuts.
-/

namespace EbnfLexer.Scan

open Counter

/-- Going down a line from delimiter to delimiter. -/
@[elab_as_elim]
theorem Literal.cut_induction {motive : Option Char → List Char → Prop}
    (segment : ∀ quote characters, (∀ c ∈ characters, delimits quote c = false) →
      motive quote characters)
    (cut : ∀ quote characters c rest, (∀ other ∈ characters, delimits quote other = false) →
      delimits quote c → motive (next quote c) rest → motive quote (characters ++ c :: rest))
    (quote : Option Char) (characters : List Char) : motive quote characters := by
  induction hlength : characters.length using Nat.strong_induction_on
    generalizing quote characters with
  | _ length ih =>
      -- The literal is the same up to the first delimiter, which is where to look for it.
      cases hfind : characters.find? (delimits quote) with
      | none => exact segment quote characters (by simpa using hfind)
      | some c =>
          obtain ⟨hc, front, rest, rfl, hfront⟩ := List.find?_eq_some_iff_append.mp hfind
          have hshorter : rest.length < length := by
            rw [← hlength, List.length_append, List.length_cons]
            omega
          exact cut quote front c rest (by simpa using hfront) hc
            (ih rest.length hshorter (next quote c) rest rfl)

/-- The characters of a segment that are kept. -/
def Literal.kept (quote : Option Char) (characters : List Char) : List Char :=
  characters.filter fun c => quote.isSome || c != ' '

/-- The text of a segment: what is kept, without the white space around it. -/
def segmentText (quote : Option Char) (characters : List Char) : List Char :=
  Text.trim (Literal.kept quote characters)

/-- The kind and the symbol of a lexeme. -/
def Lexeme.word {ν : Type} (lexeme : Lexeme ν) : Kind × String := (lexeme.kind, lexeme.symbol)

/-- The word of a segment, if anything of it is kept. -/
def segmentWords (quote : Option Char) (characters : List Char) : List (Kind × String) :=
  if Literal.kept quote characters = [] then []
  else [(.identifier, String.ofList (segmentText quote characters))]

/-- The words of a line that begins inside the literal of `quote`. -/
def words (quote : Option Char) (characters : List Char) : List (Kind × String) :=
  (lexemes (marks quote 1 characters) : List (Lexeme ℕ)).map Lexeme.word

/-! ## Segments -/

/-- In a segment the literal stays the same, and no character is a delimiter. -/
theorem mem_marks_segment {quote : Option Char} {column : ℕ} {characters : List Char}
    (h : ∀ c ∈ characters, Literal.delimits quote c = false) {mark : Mark}
    (hmark : mark ∈ marks quote column characters) :
    mark.quote = quote ∧ mark.isDelimiter = false := by
  induction characters generalizing column with
  | nil => simp at hmark
  | cons c rest ih =>
      have hc : Literal.delimits quote c = false := h c (List.mem_cons_self ..)
      rw [marks, Literal.next_of_not_delimits hc] at hmark
      rcases List.mem_cons.mp hmark with rfl | hrest
      · exact ⟨rfl, hc⟩
      · refine ih ?_ hrest
        intro other hother
        exact h other (List.mem_cons_of_mem _ hother)

theorem not_isDelimiter_of_mem_marks {quote : Option Char} {column : ℕ} {characters : List Char}
    (h : ∀ c ∈ characters, Literal.delimits quote c = false) :
    ∀ mark ∈ marks quote column characters, mark.isDelimiter = false := by
  intro mark hmark
  exact (mem_marks_segment h hmark).2

theorem map_char_marks (quote : Option Char) (column : ℕ) (characters : List Char) :
    (marks quote column characters).map Mark.char = characters := by
  induction characters generalizing quote column with
  | nil => rfl
  | cons c rest ih => rw [marks, List.map_cons, ih]

theorem map_char_filter_isKept {quote : Option Char} (column : ℕ) {characters : List Char}
    (h : ∀ c ∈ characters, Literal.delimits quote c = false) :
    ((marks quote column characters).filter Mark.isKept).map Mark.char =
      Literal.kept quote characters := by
  have hkept : (marks quote column characters).filter Mark.isKept =
      (marks quote column characters).filter
        ((fun c => quote.isSome || c != ' ') ∘ Mark.char) := by
    refine List.filter_congr ?_
    intro mark hmark
    rw [Mark.isKept, (mem_marks_segment h hmark).1]
    rfl
  rw [hkept, ← List.filter_map, map_char_marks, Literal.kept]

section

variable {ν : Type} [Counter ν]

theorem lexemes_marks_segment {quote : Option Char} {column : ℕ} {characters : List Char}
    (h : ∀ c ∈ characters, Literal.delimits quote c = false) :
    (lexemes (marks quote column characters) : List (Lexeme ν)) =
      segmentLexemes (marks quote column characters) :=
  lexemes_segment (not_isDelimiter_of_mem_marks h)

theorem map_word_segmentLexemes {quote : Option Char} {column : ℕ} {characters : List Char}
    (h : ∀ c ∈ characters, Literal.delimits quote c = false) :
    (segmentLexemes (marks quote column characters) : List (Lexeme ν)).map Lexeme.word =
      segmentWords quote characters := by
  rw [segmentLexemes, segmentWords, segmentText, ← map_char_filter_isKept column h]
  cases (marks quote column characters).filter Mark.isKept with
  | nil => rfl
  | cons first rest => rfl

/-- The lexemes of a line that is cut at its first delimiter. -/
theorem lexemes_marks_cut {quote : Option Char} {column : ℕ} {characters rest : List Char}
    {c : Char} (h : ∀ other ∈ characters, Literal.delimits quote other = false)
    (hc : Literal.delimits quote c) :
    (lexemes (marks quote column (characters ++ c :: rest)) : List (Lexeme ν)) =
      segmentLexemes (marks quote column characters) ++
        Mark.sign ⟨quote, column + characters.length, c⟩ ::
          lexemes (marks (Literal.next quote c) (column + characters.length + 1) rest) := by
  rw [marks_append, Literal.after_of_not_delimits h, marks]
  exact lexemes_segment_append (not_isDelimiter_of_mem_marks h) hc

/-- The words of a line do not depend on where its columns begin. -/
theorem map_word_lexemes (quote : Option Char) (column : ℕ) (characters : List Char) :
    (lexemes (marks quote column characters) : List (Lexeme ν)).map Lexeme.word =
      words quote characters := by
  rw [words]
  generalize (1 : ℕ) = other
  induction quote, characters using Literal.cut_induction generalizing column other with
  | segment quote characters h =>
      rw [lexemes_marks_segment h, lexemes_marks_segment h, map_word_segmentLexemes h,
        map_word_segmentLexemes h]
  | cut quote characters c rest h hc ih =>
      rw [lexemes_marks_cut h hc, lexemes_marks_cut h hc, List.map_append, List.map_append,
        List.map_cons, List.map_cons, map_word_segmentLexemes h, map_word_segmentLexemes h,
        ih _ (other + characters.length + 1)]
      rfl

end

/-! ## Words -/

theorem words_segment {quote : Option Char} {characters : List Char}
    (h : ∀ c ∈ characters, Literal.delimits quote c = false) :
    words quote characters = segmentWords quote characters := by
  rw [words, lexemes_marks_segment h, map_word_segmentLexemes h]

theorem words_cut {quote : Option Char} {characters rest : List Char} {c : Char}
    (h : ∀ other ∈ characters, Literal.delimits quote other = false)
    (hc : Literal.delimits quote c) :
    words quote (characters ++ c :: rest) =
      segmentWords quote characters ++
        (.ofSign c, String.singleton c) :: words (Literal.next quote c) rest := by
  rw [words, lexemes_marks_cut h hc, List.map_append, List.map_cons, map_word_segmentLexemes h,
    map_word_lexemes]
  rfl

end EbnfLexer.Scan

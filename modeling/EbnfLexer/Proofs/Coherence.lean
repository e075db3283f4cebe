import EbnfLexer.Proofs.Positions
import EbnfLexer.Proofs.WordChain

/-!
# What a scan carries between two characters

A scan carries the text that it has gathered and, apart from it in its state, the
column at which this text began.  Between two characters of a line the two agree
(`Progress.Coherent`): a column is recorded exactly when something is gathered, and
it is the column of the first character gathered.  What can be gathered depends on
the literal around the place.

While a character is passed this does not hold, since the column is recorded before
the character is gathered and text is begun for a sign as well.  That is why it is
read off what a scan has done after some characters (`Context.pass_gathering`),
where what is gathered is a list of marks that know their column and their literal.

Two lexemes of text depend on the agreement.  The one that a sign ends is at the
recorded column and never at that of the sign, and the end of a line ends no text
where none was gathered (`Lexer.Coherent`).  Behind a line nothing of it is left but
the literal (`Lexer.AtRest`).
-/

namespace EbnfLexer

open Counter Scan TwoPass

namespace Scan

/-! ## Marks that are gathered -/

/-- The column of a mark is where its character is in the line. -/
theorem getElem?_of_mem_marks {quote : Option Char} {column : ℕ} {characters : List Char}
    {mark : Mark} (h : mark ∈ marks quote column characters) :
    characters[mark.column - column]? = some mark.char := by
  induction characters generalizing quote column with
  | nil => simp at h
  | cons c rest ih =>
      rcases List.mem_cons.mp h with rfl | hrest
      · simp
      · have hbehind : mark.column - column = mark.column - (column + 1) + 1 := by
          have := column_of_mem_marks hrest
          omega
        rw [hbehind, List.getElem?_cons_succ]
        exact ih hrest

section

variable {quote : Option Char} {line : List Mark} {characters : List Char} {mark : Mark}

theorem mem_of_mem_gathered (h : mark ∈ gathered line) : mark ∈ line := by
  rw [← closed_append_current line]
  exact List.mem_append_right _ (List.mem_of_mem_filter h)

/-- Text is gathered in one literal, which is that around its end. -/
theorem quote_of_mem_gathered (h : mark ∈ gathered (marks quote 1 characters)) :
    mark.quote = Literal.after quote characters := by
  induction characters using List.reverseRecOn with
  | nil => simp [gathered, current] at h
  | append_singleton characters c ih =>
      rw [marks_concat] at h
      cases hdelimiter : Mark.isDelimiter ⟨Literal.after quote characters, 1 + characters.length, c⟩
      case true =>
        rw [gathered_concat_delimiter hdelimiter] at h
        contradiction
      case false =>
        have hsame : Literal.after quote (characters ++ [c]) = Literal.after quote characters := by
          rw [Literal.after_append]
          exact Literal.next_of_not_delimits hdelimiter
        rw [gathered_concat_text hdelimiter] at h
        rw [hsame]
        rcases List.mem_append.mp h with hbefore | hlast
        · exact ih hbefore
        · rw [List.mem_singleton.mp (List.mem_of_mem_filter hlast)]

/-- Outside literals neither spaces nor signs are gathered. -/
theorem text_outside (h : mark ∈ gathered line) (houtside : mark.quote = none) :
    mark.char ≠ ' ' ∧ isSign mark.char = false := by
  have hkept : mark.isKept := List.of_mem_filter h
  have htext : mark.isDelimiter = false := not_isDelimiter_of_mem_current (List.mem_of_mem_filter h)
  rw [Mark.isKept, houtside] at hkept
  rw [Mark.isDelimiter, houtside, Literal.delimits_none] at htext
  exact ⟨by simpa using hkept, htext⟩

/-- Inside a literal no sign is gathered but the opposite quote. -/
theorem text_inside {opening : Char} (h : mark ∈ gathered line)
    (hinside : mark.quote = some opening) (hopening : isQuote opening)
    (hsign : isSign mark.char) : mark.char = Literal.opposite opening := by
  have htext : mark.isDelimiter = false := not_isDelimiter_of_mem_current (List.mem_of_mem_filter h)
  rw [Mark.isDelimiter, hinside] at htext
  exact Literal.eq_opposite hopening hsign htext

end

/-! ## Between two characters -/

variable {ν : Type}

/-- The lexeme of the text gathered in a context, at the column recorded for it, if there is one. -/
def Context.ended (context : Context ν) : Array (Lexeme ν) :=
  (context.state.startColumn.map (Lexeme.ofText context.pending)).toArray

variable [Counter ν]

/-- What a scan is like between two characters of a line that begins with `front`, when it has
passed the characters of `front`. -/
structure Progress.Coherent (progress : Progress ν) (front : List Char) : Prop where
  /-- The scan has counted the characters that it has passed. -/
  column_eq : progress.column = count front.length
  /-- Text has been begun if and only if something is gathered. -/
  isOpen_iff : progress.context.state.isOpen ↔ progress.context.pending ≠ ""
  /-- The column recorded for the text is one of those passed, and holds its first character. -/
  started : ∀ start, progress.context.state.startColumn = some start →
    ∃ column first, start = count column ∧ 1 ≤ column ∧ column ≤ front.length ∧
      front[column - 1]? = some first ∧ progress.context.pending.toList.head? = some first
  /-- Outside literals the text has neither spaces nor signs. -/
  outside : ∀ start, progress.context.state = .accumulating start →
    ∀ c ∈ progress.context.pending.toList, c ≠ ' ' ∧ isSign c = false
  /-- Inside a literal, which a quote has opened, the text has no sign but the opposite quote. -/
  inside : ∀ quote start, progress.context.state = .inLiteral quote start →
    isQuote quote ∧ ∀ c ∈ progress.context.pending.toList, isSign c → c = Literal.opposite quote

/-- Where nothing is gathered there is nothing to end. -/
theorem Progress.Coherent.ended_eq_empty {progress : Progress ν} {front : List Char}
    (h : progress.Coherent front) (hpending : progress.context.pending = "") :
    progress.context.ended = #[] := by
  have hclosed : progress.context.state.startColumn = none := by
    have := h.isOpen_iff.not.mpr (not_not.mpr hpending)
    simpa [State.isOpen] using this
  rw [Context.ended, hclosed]
  rfl

namespace Context

variable {quote : Option Char}

theorem ended_gathering (quote : Option Char) (text : List Mark) :
    (gathering quote text : Context ν).ended = (keptLexemes text).toArray := by
  cases text with
  | nil => simp [ended, gathering, keptLexemes]
  | cons first rest => simp [ended, gathering, keptLexemes, Lexeme.ofText]

/-- The characters gathered in a context are those of its marks. -/
theorem exists_mark_of_mem_pending {text : List Mark} {c : Char}
    (h : c ∈ (gathering quote text : Context ν).pending.toList) : ∃ mark ∈ text, mark.char = c := by
  simpa [gathering] using h

/-- Between two characters a scan is coherent. -/
theorem coherent_pass (hquote : ∀ opening ∈ quote, isQuote opening) (front : List Char) :
    ((gathering quote [] : Context ν).pass front).Coherent front := by
  rw [pass_gathering]
  set literal := Literal.after quote front
  refine ⟨rfl, ?isOpen, ?started, ?outside, ?inside⟩
  case isOpen =>
    rw [State.isOpen, gathering, State.startColumn_within]
    cases gathered (marks quote 1 front) <;> simp
  case started =>
    intro start hstart
    rw [gathering, State.startColumn_within] at hstart
    cases htext : gathered (marks quote 1 front) with
    | nil => simp [htext] at hstart
    | cons first rest =>
        have hfirst : first ∈ marks quote 1 front :=
          mem_of_mem_gathered (htext ▸ List.mem_cons_self ..)
        have hcolumn := column_of_mem_marks hfirst
        obtain rfl : count first.column = start := by simpa [htext] using hstart
        exact ⟨first.column, first.char, rfl, hcolumn.1, by omega, getElem?_of_mem_marks hfirst,
          by simp [gathering]⟩
  case outside =>
    intro start hstate c hc
    have houtside : literal = none :=
      (quote_gathering literal _).symm.trans (congrArg State.quote hstate)
    obtain ⟨mark, hmark, rfl⟩ := exists_mark_of_mem_pending hc
    exact text_outside hmark ((quote_of_mem_gathered hmark).trans houtside)
  case inside =>
    intro opening start hstate
    have hinside : literal = some opening :=
      (quote_gathering literal _).symm.trans (congrArg State.quote hstate)
    have hopening : isQuote opening := Literal.isQuote_of_mem_after hquote front opening hinside
    refine ⟨hopening, ?_⟩
    intro c hc hsign
    obtain ⟨mark, hmark, rfl⟩ := exists_mark_of_mem_pending hc
    exact text_inside hmark ((quote_of_mem_gathered hmark).trans hinside) hopening hsign

/-- A sign ends the text before it at the column recorded for it. -/
theorem found_pass_concat {front : List Char} {c : Char}
    (h : Literal.delimits ((gathering quote [] : Context ν).pass front).context.state.quote c) :
    ((gathering quote [] : Context ν).pass (front ++ [c])).found =
      ((gathering quote []).pass front).found ++
        ((gathering quote []).pass front).context.ended ++
        #[.ofSign c (count (front.length + 1))] := by
  have hdelimiter : Mark.isDelimiter ⟨Literal.after quote front, front.length + 1, c⟩ := by
    rwa [pass_gathering, quote_gathering] at h
  rw [pass_concat, pass_gathering, ended_gathering, Progress.step_delimiter hdelimiter]
  simp [Mark.sign, Lexeme.ofSign]

/-- So does the end of a line, which ends nothing where nothing is gathered. -/
theorem lexemes_scan (hquote : ∀ opening ∈ quote, isQuote opening) (line : String) :
    ((gathering quote [] : Context ν).scan line).2 =
      ((gathering quote []).pass (stripped line)).found ++
        if ((gathering quote [] : Context ν).pass (stripped line)).context.pending = "" then #[]
        else ((gathering quote []).pass (stripped line)).context.ended := by
  have hended : ((gathering quote [] : Context ν).scan line).2 =
      ((gathering quote []).pass (stripped line)).found ++
        ((gathering quote []).pass (stripped line)).context.ended := by
    rw [scan, dropSpace_toList, pass_gathering, finish_gathering, ended_gathering]
  split
  case isTrue hpending =>
    have hcoherent := coherent_pass (ν := ν) hquote (stripped line)
    rw [hended, hcoherent.ended_eq_empty hpending]
  case isFalse => exact hended

end Context

end Scan

/-! ## Lines -/

variable {ν : Type} [Counter ν]

namespace Lexer

/-- A lexer that has nothing gathered and no text begun: it is idle, or it is inside a literal and
no more than that. -/
structure AtRest (lexer : Lexer ν) : Prop where
  pending_eq : lexer.context.pending = ""
  state_eq : lexer.state = .idle ∨ ∃ quote, isQuote quote ∧ lexer.state = .inLiteral quote none

/-- What a lexer does in the course of a line. -/
structure Coherent (lexer : Lexer ν) (line : String) : Prop where
  /-- The scan is coherent behind every beginning of the line. -/
  between : ∀ front rest, stripped line = front ++ rest →
    (lexer.context.pass front).Coherent front
  /-- A sign ends the text gathered before it, if there is any, at the column recorded for it. -/
  atSign : ∀ front c rest, stripped line = front ++ c :: rest →
    Literal.delimits (lexer.context.pass front).context.state.quote c →
    (lexer.context.pass (front ++ [c])).found =
      (lexer.context.pass front).found ++ (lexer.context.pass front).context.ended ++
        #[.ofSign c (count (front.length + 1))]
  /-- The end of the line ends the text gathered before it, and yields nothing if there is none. -/
  atEnd : (lexer.context.scan line).2 =
    (lexer.context.pass (stripped line)).found ++
      if (lexer.context.pass (stripped line)).context.pending = "" then #[]
      else (lexer.context.pass (stripped line)).context.ended
  /-- Behind the line the lexer is at rest. -/
  behind : (lexer.feed line).2.AtRest

theorem atRest_between {quote : Option Char} (hquote : ∀ opening ∈ quote, isQuote opening)
    (taken emitted : ℕ) : (between quote taken emitted : Lexer ν).AtRest := by
  refine ⟨rfl, ?_⟩
  cases quote with
  | none => exact Or.inl rfl
  | some opening => exact Or.inr ⟨opening, hquote opening rfl, rfl⟩

end Lexer

/-- **A scan is coherent.**  Whatever lines came before, a lexer is at rest between two lines, and
between two characters of a line it has recorded a column if and only if it has gathered text: the
column is that of the first character gathered, and the text fits into the literal around the place.
So what a sign ends is always at the recorded column, and the end of a line ends nothing where
nothing is gathered. -/
theorem coherent_fed (lines : List String) (line : String) :
    (Lexer.fed lines : Lexer ν).AtRest ∧ (Lexer.fed lines : Lexer ν).Coherent line := by
  have hquote : ∀ opening ∈ Literal.after none (lines.flatMap String.toList), isQuote opening :=
    Literal.isQuote_of_mem_after (by simp) _
  rw [Lexer.fed_eq_between]
  set quote := Literal.after none (lines.flatMap String.toList)
  refine ⟨Lexer.atRest_between hquote _ _, ?between, ?atSign, ?atEnd, ?behind⟩
  case between =>
    intro front rest _
    exact Context.coherent_pass hquote front
  case atSign =>
    intro front c rest _ hdelimits
    exact Context.found_pass_concat hdelimits
  case atEnd => exact Context.lexemes_scan hquote line
  case behind =>
    rw [Lexer.feed_between]
    exact Lexer.atRest_between (Literal.isQuote_of_mem_after hquote _) _ _

/-- Inside a literal that an earlier line has opened: the opposite quote is gathered as text, and
the sign behind it ends the text at the column of its first character. -/
theorem coherent_fed_opposite_quote :
    stripped "y\"z; b' " = ['y', '"', 'z'] ++ ';' :: [' ', 'b', '\''] ∧
    ((Lexer.fed ["a = 'x"] : Lexer UInt64).context.pass ['y', '"', 'z']).Coherent ['y', '"', 'z'] ∧
    ((Lexer.fed ["a = 'x"] : Lexer UInt64).context.pass ['y', '"', 'z']).context =
      ⟨.inLiteral '\'' (some 1), "y\"z"⟩ ∧
    ((Lexer.fed ["a = 'x"] : Lexer UInt64).context.pass (['y', '"', 'z'] ++ [';'])).found =
      #[⟨.identifier, "y\"z", 1⟩, ⟨.terminator, ";", 4⟩] ∧
    ((Lexer.fed ["a = 'x"] : Lexer UInt64).feed "y\"z; b' ").2.AtRest := by
  have hline : stripped "y\"z; b' " = ['y', '"', 'z'] ++ ';' :: [' ', 'b', '\''] := by
    decide +kernel
  have hcontext : ((Lexer.fed ["a = 'x"] : Lexer UInt64).context.pass ['y', '"', 'z']).context =
      ⟨.inLiteral '\'' (some 1), "y\"z"⟩ := by decide +kernel
  obtain ⟨-, hcoherent⟩ := coherent_fed (ν := UInt64) ["a = 'x"] "y\"z; b' "
  refine ⟨hline, hcoherent.between _ _ hline, hcontext, ?_, hcoherent.behind⟩
  rw [hcoherent.atSign _ _ _ hline (by rw [hcontext]; decide), hcontext]
  decide +kernel

end EbnfLexer

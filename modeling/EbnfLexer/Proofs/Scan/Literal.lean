import EbnfLexer.Proofs.Counting
import EbnfLexer.Scan.State

/-!
# The literal around a place

Which literal surrounds a place is decided by the quotes before the place and by
nothing else.  `Literal.next` is the rule for one character, `Literal.after` its
run over a text, and `Literal.delimits` says which characters end the text
before them.  A literal is given by the quote that opened it, `none` being
outside.

A state of the scan is a literal together with a column (`State.within`), and in
these terms the rule for signs reads: a delimiter moves to the next literal,
with no text begun (`State.afterSign?_eq`).
-/

namespace EbnfLexer.Scan

namespace Literal

/-- The literal after `c`: a quote opens a literal outside, and closes the one that it
opened. -/
def next (quote : Option Char) (c : Char) : Option Char :=
  if isQuote c then
    match quote with
    | none => some c
    | some opening => if opening = c then none else some opening
  else quote

/-- The literal after some characters. -/
def after (quote : Option Char) (characters : List Char) : Option Char :=
  characters.foldl next quote

/-- Whether `c` ends the text before it: every sign does, except for the quote that did not
open the literal around it. -/
def delimits (quote : Option Char) (c : Char) : Bool :=
  isSign c && !(isQuote c && quote.any (· != c))

@[simp] theorem after_nil (quote : Option Char) : after quote [] = quote := rfl

@[simp] theorem after_cons (quote : Option Char) (c : Char) (characters : List Char) :
    after quote (c :: characters) = after (next quote c) characters := rfl

@[simp] theorem after_append (quote : Option Char) (characters others : List Char) :
    after quote (characters ++ others) = after (after quote characters) others :=
  List.foldl_append

theorem next_of_not_isQuote {c : Char} (quote : Option Char) (h : isQuote c = false) :
    next quote c = quote := by
  simp [next, h]

/-- What is no delimiter leaves the literal as it is. -/
theorem next_of_not_delimits {quote : Option Char} {c : Char} (h : delimits quote c = false) :
    next quote c = quote := by
  cases hquote : isQuote c with
  | false => exact next_of_not_isQuote quote hquote
  | true =>
      have hsign : isSign c := isSign_of_isQuote hquote
      cases quote with
      | none => simp [delimits, hsign] at h
      | some opening =>
          -- the one quote that is no delimiter is the one that did not open the literal
          have hne : opening ≠ c := by simpa [delimits, hsign, hquote] using h
          simp [next, hquote, hne]

/-- Text without delimiters leaves the literal as it is. -/
theorem after_of_not_delimits {quote : Option Char} {characters : List Char}
    (h : ∀ c ∈ characters, delimits quote c = false) : after quote characters = quote := by
  induction characters with
  | nil => rfl
  | cons c rest ih =>
      rw [after_cons, next_of_not_delimits (h c (List.mem_cons_self ..))]
      refine ih ?_
      intro other hother
      exact h other (List.mem_cons_of_mem _ hother)

@[simp] theorem delimits_space (quote : Option Char) : delimits quote ' ' = false := by
  simp [delimits, isSign_space]

end Literal

namespace State

variable {ν : Type}

/-- The state inside the literal opened by `quote`, in text that began at `start` if any
did. -/
def within (quote : Option Char) (start : Option ν) : State ν :=
  match quote, start with
  | none, none => idle
  | none, some column => accumulating column
  | some opening, start => inLiteral opening start

/-- A state is the literal around it and the column of its text. -/
theorem within_quote_startColumn (state : State ν) :
    State.within state.quote state.startColumn = state := by
  cases state <;> rfl

@[simp] theorem quote_within (quote : Option Char) (start : Option ν) :
    (State.within quote start).quote = quote := by
  cases quote <;> cases start <;> rfl

@[simp] theorem startColumn_within (quote : Option Char) (start : Option ν) :
    (State.within quote start).startColumn = start := by
  cases quote <;> cases start <;> rfl

@[simp] theorem begin_within (quote : Option Char) (start : Option ν) (column : ν) :
    (State.within quote start).begin column = State.within quote (some (start.getD column)) := by
  cases quote <;> cases start <;> rfl

@[simp] theorem finish_within (quote : Option Char) (start : Option ν) :
    (State.within quote start).finish = State.within quote none := by
  cases quote <;> cases start <;> rfl

theorem finish_eq_within (state : State ν) : state.finish = State.within state.quote none := by
  cases state <;> rfl

/-- The rule for signs: a delimiter moves to the next literal with no text begun, and every
other character is text. -/
theorem afterSign?_eq (state : State ν) (c : Char) :
    state.afterSign? c =
      if Literal.delimits state.quote c then some (State.within (Literal.next state.quote c) none)
      else none := by
  cases hsign : isSign c with
  | false => simp [afterSign?, Literal.delimits, hsign]
  | true =>
      cases hquote : isQuote c with
      | false => simp [afterSign?, Literal.delimits, Literal.next, hsign, hquote, finish_eq_within]
      | true =>
          cases hopening : state.quote with
          | none => simp [afterSign?, Literal.delimits, Literal.next, hsign, hquote, hopening,
              State.within]
          | some opening =>
              by_cases hsame : opening = c
              · simp [afterSign?, Literal.delimits, Literal.next, hsign, hquote, hopening,
                  hsame, State.within]
              · -- the quote of the other literal is text here, on both sides
                simp [afterSign?, Literal.delimits, hsign, hquote, hopening, hsame]

end State

end EbnfLexer.Scan

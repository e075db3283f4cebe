import EbnfLexer.Sign

/-!
# Where a scan stands

Between two characters a scan is outside or inside a literal, and text may have
been begun there or not.  Text that was begun outside a literal is the one state
without a choice: outside, nothing begun means there is nothing to remember.

A sign ends the text before it, with one exception: inside a literal the quote
that did not open it is text.  `State.afterSign?` holds that rule.
-/

namespace EbnfLexer.Scan

/-- Where a scan stands between two characters. -/
inductive State (ν : Type) where
  /-- Outside any literal, with no text begun. -/
  | idle
  /-- Outside any literal, in text that began at `startColumn`. -/
  | accumulating (startColumn : ν)
  /-- Inside a literal opened by `quote`, in text that began at `startColumn` if any did. -/
  | inLiteral (quote : Char) (startColumn : Option ν)
  deriving DecidableEq, Repr

namespace State

variable {ν : Type}

/-- The quote that opened the literal around this place. -/
def quote : State ν → Option Char
  | inLiteral quote _ => some quote
  | _ => none

/-- Whether a literal is around this place. -/
def isQuoted (state : State ν) : Bool := state.quote.isSome

/-- The column at which the text begun here started. -/
def startColumn : State ν → Option ν
  | idle => none
  | accumulating startColumn => some startColumn
  | inLiteral _ startColumn => startColumn

/-- Whether text has been begun. -/
def isOpen (state : State ν) : Bool := state.startColumn.isSome

/-- The state once text is begun at `column`; text that was begun before goes on. -/
def begin (column : ν) : State ν → State ν
  | idle => accumulating column
  | inLiteral quote none => inLiteral quote (some column)
  | state => state

/-- The state once the text is ended; only the literal around it remains. -/
def finish : State ν → State ν
  | inLiteral quote _ => inLiteral quote none
  | _ => idle

/-- The state after the character `c` is taken as a sign, or nothing if it is text here.
A quote opens a literal, closes the literal that it opened, and is text inside the
other one. -/
def afterSign? (state : State ν) (c : Char) : Option (State ν) :=
  if isSign c = false then none
  else if isQuote c then
    match state.quote with
    | none => some (inLiteral c none)
    | some quote => if quote = c then some idle else none
  else some state.finish

@[simp] theorem quote_begin (state : State ν) (column : ν) :
    (state.begin column).quote = state.quote := by
  cases state with
  | idle => rfl
  | accumulating => rfl
  | inLiteral _ startColumn => cases startColumn <;> rfl

@[simp] theorem quote_finish (state : State ν) : state.finish.quote = state.quote := by
  cases state <;> rfl

@[simp] theorem startColumn_finish (state : State ν) : state.finish.startColumn = none := by
  cases state <;> rfl

/-- Beginning text records a column in every case. -/
theorem startColumn_begin (state : State ν) (column : ν) :
    (state.begin column).startColumn = some (state.startColumn.getD column) := by
  cases state with
  | idle => rfl
  | accumulating => rfl
  | inLiteral _ startColumn => cases startColumn <;> rfl

/-- No text is begun where a sign has just been taken. -/
theorem startColumn_afterSign? {state next : State ν} {c : Char}
    (h : state.afterSign? c = some next) : next.startColumn = none := by
  by_cases hsign : isSign c = false
  · simp [afterSign?, hsign] at h
  by_cases hquote : isQuote c
  · cases hopen : state.quote with
    | none =>
      simp only [afterSign?, hsign, hquote, hopen] at h
      cases h
      rfl
    | some quote =>
      by_cases hsame : quote = c
      · simp only [afterSign?, hsign, hquote, hopen, hsame] at h
        cases h
        rfl
      · simp [afterSign?, hsign, hquote, hopen, hsame] at h
  · simp only [afterSign?, hsign, hquote] at h
    cases h
    exact startColumn_finish state

end State

end EbnfLexer.Scan

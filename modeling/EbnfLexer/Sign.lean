import EbnfLexer.Kind

/-!
# The signs of a grammar

Fifteen characters are signs of the grammar language.  Two of them, the
quotes, open and close literals.  `Kind.ofSign` says what kind of token each
sign is; `*` is a sign without a kind of its own.
-/

namespace EbnfLexer

/-- The characters that stand for themselves as tokens, in listing order. -/
def signs : List Char :=
  ['=', ',', ';', '|', '[', ']', '{', '}', '(', ')', '\'', '"', '-', '*', '?']

/-- Whether a character is a sign. -/
def isSign (c : Char) : Bool := signs.contains c

/-- Whether a character opens and closes literals. -/
def isQuote (c : Char) : Bool := c == '\'' || c == '"'

/-- The kind of token that a sign is; every other character is of unknown kind. -/
def Kind.ofSign (c : Char) : Kind :=
  match c with
  | '=' => .define
  | ',' => .concat
  | ';' => .terminator
  | '|' => .alternation
  | '[' | ']' => .optional
  | '{' | '}' => .repetition
  | '(' | ')' => .group
  | '\'' | '"' => .terminalQuote
  | '?' => .special
  | '-' => .exception
  | _ => .unknown

/-- A quote is a sign. -/
theorem isSign_of_isQuote {c : Char} (h : isQuote c) : isSign c := by
  simp only [isQuote, Bool.or_eq_true, beq_iff_eq] at h
  rcases h with rfl | rfl <;> decide

/-- The space between words is no sign. -/
theorem isSign_space : isSign ' ' = false := by decide

/-- No sign is text. -/
theorem Kind.ofSign_ne_identifier (c : Char) : Kind.ofSign c ≠ .identifier := by
  unfold Kind.ofSign
  split <;> simp

/-- Exactly the quotes have the kind of a quote. -/
theorem Kind.ofSign_eq_terminalQuote_iff {c : Char} :
    Kind.ofSign c = .terminalQuote ↔ isQuote c := by
  unfold Kind.ofSign
  split <;> simp_all [isQuote]

end EbnfLexer

import EbnfLexer.Lexer
import EbnfLexer.Proofs.Scan.Pass

/-!
# A run over lines in two passes

The two passes over a line (`Scan.marks`, `Scan.lexemes`) are put together to
two passes over a list of lines.  The first pass carries the literal over line
ends, the second numbers lines and lexemes.  `TwoPass.tokens` is the result, and
`tokenize_eq_twoPass` says that the lexer yields exactly this.

Between two lines a lexer is no more than an open literal and two numbers
(`Lexer.between`).  `Lexer.feedAll_between` says what further lines do to such a
lexer, whatever lines came before, and `Lexer.feedAll_start` that every lexer
that has been fed is one.  In the middle of a line the scan stands where the
literal around the place and the text gathered so far put it
(`Lexer.stateBehind`).
-/

namespace EbnfLexer

open Counter Scan

variable {ν : Type} [Counter ν]

namespace TwoPass

/-- The characters of a line without one space at its end, if there is one. -/
def stripped (line : String) : List Char := (line.toList.dropSuffix? [' ']).getD line.toList

/-- The first pass over lines of which the first begins inside the literal of `quote`. -/
def markLines (quote : Option Char) : List String → List (List Mark)
  | [] => []
  | line :: lines =>
      marks quote 1 (stripped line) :: markLines (Literal.after quote (stripped line)) lines

/-- The second pass: the lexemes of lines with the number of their line, the first line having
the number `first`. -/
def placed (quote : Option Char) (first : ℕ) (lines : List String) : List (ℕ × Lexeme ν) :=
  ((markLines quote lines).zipIdx first).flatMap fun (line, number) =>
    (lexemes line).map fun lexeme => (number, lexeme)

/-- Lexemes as tokens, the first token having the number `first`. -/
def numbered (first : ℕ) (found : List (ℕ × Lexeme ν)) : List (Token ν) :=
  (found.zipIdx first).map fun ((line, lexeme), id) =>
    ⟨count id, lexeme.kind, lexeme.symbol, ⟨count line, lexeme.column⟩⟩

/-- The tokens of a text given by its lines. -/
def tokens (lines : List String) : List (Token ν) := numbered 1 (placed none 1 lines)

/-! ## Lines one by one -/

theorem stripped_of_space {line : String} {front : List Char} (h : line.toList = front ++ [' ']) :
    stripped line = front := by
  have hcut : line.toList.dropSuffix? [' '] = some front :=
    List.dropSuffix?_eq_some_iff.mpr ⟨[' '], h, beq_self_eq_true _⟩
  rw [stripped, hcut, Option.getD_some]

theorem stripped_of_no_space {line : String} (h : line.toList.getLast? ≠ some ' ') :
    stripped line = line.toList := by
  cases hcut : line.toList.dropSuffix? [' '] with
  | none => rw [stripped, hcut, Option.getD_none]
  | some front =>
      obtain ⟨space, hline, hspace⟩ := List.dropSuffix?_eq_some_iff.mp hcut
      rw [hline, eq_of_beq hspace] at h
      exact absurd List.getLast?_concat h

/-- A line ends with one space that is left out, or nothing is left out. -/
theorem stripped_cases (line : String) :
    line.toList = stripped line ++ [' '] ∨
      line.toList.getLast? ≠ some ' ' ∧ stripped line = line.toList := by
  by_cases hlast : line.toList.getLast? = some ' '
  · obtain ⟨front, hline⟩ := List.getLast?_eq_some_iff.mp hlast
    exact Or.inl (by rw [stripped_of_space hline, hline])
  · exact Or.inr ⟨hlast, stripped_of_no_space hlast⟩

theorem mem_of_mem_stripped {line : String} {c : Char} (h : c ∈ stripped line) :
    c ∈ line.toList := by
  rcases stripped_cases line with hline | ⟨_, hline⟩
  · rw [hline]
    exact List.mem_append_left _ h
  · rw [← hline]
    exact h

theorem dropSpace_toList (line : String) : dropSpace line.toList = stripped line := by
  rcases stripped_cases line with hline | ⟨hlast, hline⟩
  · rw [dropSpace, if_pos (by rw [hline, List.getLast?_concat]), hline, List.dropLast_concat]
  · rw [dropSpace, if_neg hlast, hline]

/-- The space that is left out of a line is the one at the end of its second part, unless this is
empty. -/
theorem stripped_append {front back : String}
    (h : back.toList = [] → front.toList.getLast? ≠ some ' ') :
    stripped (front ++ back) = front.toList ++ stripped back := by
  rcases stripped_cases back with hback | ⟨hlast, hback⟩
  · apply stripped_of_space
    rw [String.toList_append, List.append_assoc, ← hback]
  · rw [hback, ← String.toList_append]
    apply stripped_of_no_space
    rw [String.toList_append, List.getLast?_append]
    cases hend : back.toList.getLast? with
    | none => exact h (List.getLast?_eq_none_iff.mp hend)
    | some c =>
        intro hspace
        exact hlast (hend.trans hspace)

@[simp] theorem after_stripped (quote : Option Char) (line : String) :
    Literal.after quote (stripped line) = Literal.after quote line.toList := by
  rcases stripped_cases line with hline | ⟨_, hline⟩
  · rw [hline, Literal.after_append]
    exact (Literal.after_of_not_delimits (by simp)).symm
  · rw [hline]

@[simp] theorem placed_nil (quote : Option Char) (first : ℕ) :
    (placed quote first [] : List (ℕ × Lexeme ν)) = [] := rfl

theorem placed_cons (quote : Option Char) (first : ℕ) (line : String) (lines : List String) :
    (placed quote first (line :: lines) : List (ℕ × Lexeme ν)) =
      (lexemes (marks quote 1 (stripped line))).map (fun lexeme => (first, lexeme)) ++
        placed (Literal.after quote line.toList) (first + 1) lines := by
  rw [← after_stripped]
  rfl

@[simp] theorem length_numbered (first : ℕ) (found : List (ℕ × Lexeme ν)) :
    (numbered first found).length = found.length := by
  simp [numbered]

theorem numbered_append (first : ℕ) (found others : List (ℕ × Lexeme ν)) :
    numbered first (found ++ others) =
      numbered first found ++ numbered (first + found.length) others := by
  simp [numbered, List.zipIdx_append]

/-- A change of each lexeme of a line and of the number of the line is a change of each token. -/
theorem numbered_map {line other : ℕ} {change : Lexeme ν → Lexeme ν} {changed : Token ν → Token ν}
    (h : ∀ id lexeme,
      numbered id [(line, change lexeme)] = (numbered id [(other, lexeme)]).map changed)
    (first : ℕ) (found : List (Lexeme ν)) :
    numbered first (found.map fun lexeme => (line, change lexeme)) =
      (numbered first (found.map fun lexeme => (other, lexeme))).map changed := by
  induction found generalizing first with
  | nil => rfl
  | cons lexeme rest ih =>
      rw [List.map_cons, List.map_cons, ← List.singleton_append, numbered_append,
        ← List.singleton_append (l := rest.map _), numbered_append, List.map_append, h, ih]
      rfl

end TwoPass

namespace Lexer

open TwoPass

/-- The lexer between two lines: inside the literal of `quote`, with `taken` lines taken and
`emitted` tokens numbered. -/
def between (quote : Option Char) (taken emitted : ℕ) : Lexer ν :=
  ⟨.gathering quote [], count taken, count (emitted + 1)⟩

theorem start_eq_between : (start : Lexer ν) = between none 0 0 := rfl

/-- Numbering goes on from the tokens that were numbered before. -/
private theorem foldl_number (context : Context ν) (line id : ℕ) (found : List (Lexeme ν))
    (tokens : Array (Token ν)) :
    found.foldl number (tokens, ⟨context, count line, count id⟩) =
      (tokens ++ (numbered id (found.map fun lexeme => (line, lexeme))).toArray,
        ⟨context, count line, count (id + found.length)⟩) := by
  induction found generalizing id tokens with
  | nil => simp [numbered]
  | cons lexeme rest ih =>
      simp only [List.foldl_cons, number, emit, next_count, ih]
      rw [List.map_cons, ← List.singleton_append (l := rest.map _), numbered_append]
      simp [numbered, Nat.add_assoc, Nat.add_comm 1]

theorem feed_between (quote : Option Char) (taken emitted : ℕ) (line : String) :
    (between quote taken emitted : Lexer ν).feed line =
      ((numbered (emitted + 1) (placed quote (taken + 1) [line])).toArray,
        between (Literal.after quote line.toList) (taken + 1)
          (emitted + (placed quote (taken + 1) [line] : List (ℕ × Lexeme ν)).length)) := by
  rw [feed, between, Context.scan_gathering, dropSpace_toList, after_stripped, placed_cons]
  simp only [next_count, List.foldl_toArray, foldl_number]
  simp [between, Nat.add_right_comm]

theorem feedAll_between (quote : Option Char) (taken emitted : ℕ) (lines : List String) :
    (between quote taken emitted : Lexer ν).feedAll lines =
      ((numbered (emitted + 1) (placed quote (taken + 1) lines)).toArray,
        between (Literal.after quote (lines.flatMap String.toList)) (taken + lines.length)
          (emitted + (placed quote (taken + 1) lines : List (ℕ × Lexeme ν)).length)) := by
  induction lines generalizing quote taken emitted with
  | nil => simp [numbered]
  | cons line lines ih =>
      -- The numbering of the other lines goes on where that of the first line ends.
      have hplaced : (placed quote (taken + 1) (line :: lines) : List (ℕ × Lexeme ν)) =
          placed quote (taken + 1) [line] ++
            placed (Literal.after quote line.toList) (taken + 1 + 1) lines := by
        rw [placed_cons, placed_cons, placed_nil, List.append_nil]
      rw [feedAll_cons, feed_between, ih, hplaced, numbered_append]
      simp [Nat.add_assoc, Nat.add_comm 1]

/-- The lexer that was fed some lines from the start. -/
def fed (lines : List String) : Lexer ν := (start.feedAll lines).2

/-- Feeding from the start yields the tokens of two passes, and a lexer between two lines. -/
theorem feedAll_start (lines : List String) :
    (start : Lexer ν).feedAll lines =
      ((TwoPass.tokens lines).toArray,
        between (Literal.after none (lines.flatMap String.toList)) lines.length
          (placed none 1 lines : List (ℕ × Lexeme ν)).length) := by
  rw [start_eq_between, feedAll_between, Nat.zero_add, Nat.zero_add, Nat.zero_add, TwoPass.tokens]

theorem fed_eq_between (lines : List String) :
    (fed lines : Lexer ν) =
      between (Literal.after none (lines.flatMap String.toList)) lines.length
        (placed none 1 lines : List (ℕ × Lexeme ν)).length := by
  rw [fed, feedAll_start]

@[simp] theorem state_between (quote : Option Char) (taken emitted : ℕ) :
    (between quote taken emitted : Lexer ν).state = .within quote none := rfl

/-- The state behind a text is given by the literal around its end. -/
theorem state_fed (lines : List String) :
    (fed lines : Lexer ν).state =
      .within (Literal.after none (lines.flatMap String.toList)) none := by
  rw [fed_eq_between, state_between]

end Lexer

/-! ## In the middle of a line -/

namespace Lexer

/-- Where the scan stands when the lexer has passed the characters of `front`, which the next line
begins with. -/
def stateBehind (lexer : Lexer ν) (front : String) : State ν :=
  (lexer.context.pass front.toList).context.state

theorem quote_stateBehind_between (quote : Option Char) (taken emitted : ℕ) (front : String) :
    ((between quote taken emitted : Lexer ν).stateBehind front).quote =
      Literal.after quote front.toList := by
  rw [stateBehind, between, Context.pass_gathering, Context.quote_gathering]

/-- Text has been begun if something is gathered behind the last delimiter. -/
theorem isOpen_stateBehind_between (quote : Option Char) (taken emitted : ℕ) (front : String) :
    ((between quote taken emitted : Lexer ν).stateBehind front).isOpen = false ↔
      gathered (marks quote 1 front.toList) = [] := by
  rw [stateBehind, between, Context.pass_gathering, State.isOpen, Context.gathering,
    State.startColumn_within]
  simp

end Lexer

/-- **The lexer yields what two passes over the lines yield**: one token for each delimiter and
one for each segment of which something is kept, in the order of the text. -/
theorem tokenize_eq_twoPass (lines : List String) :
    (tokenize lines : List (Token ν)) = TwoPass.tokens lines := by
  rw [tokenize, Lexer.feedAll_start]

end EbnfLexer

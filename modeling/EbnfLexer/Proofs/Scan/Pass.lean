import EbnfLexer.Proofs.Scan.Segment

/-!
# What a scan has done after some characters

The scan of a line and the two passes over it meet in one equation.  After any
beginning of a line the scan stands inside the literal that the quotes so far
decide, holds the text gathered behind the last delimiter, began it at the
column of its first character, and has found the lexemes of what that delimiter
closed (`Context.pass_gathering`).  A context with no text gathered, which is
how every line ends (`Context.scan_gathering`), is thus determined by the
literal alone.

The equation is proved one character at a time.  There are three kinds of
characters: a space outside literals is dropped, other text is gathered, and a
delimiter closes what was gathered before it; `Progress.step` has a lemma for
each.
-/

namespace EbnfLexer.Scan

open Counter

variable {ν : Type} [Counter ν]

namespace Context

/-- The context inside the literal of `quote` with `text` gathered. -/
def gathering (quote : Option Char) (text : List Mark) : Context ν :=
  ⟨.within quote (text.head?.map fun first => count first.column),
    String.ofList (text.map Mark.char)⟩

@[simp] theorem quote_gathering (quote : Option Char) (text : List Mark) :
    (gathering quote text : Context ν).state.quote = quote :=
  State.quote_within _ _

/-- One more character is gathered. -/
theorem gathering_concat (quote : Option Char) (text : List Mark) (mark : Mark) :
    Context.mk ((gathering quote text : Context ν).state.begin (count mark.column))
        ((gathering quote text : Context ν).pending.push mark.char) =
      gathering quote (text ++ [mark]) := by
  have hstart : some ((text.head?.map fun first => (count first.column : ν)).getD
      (count mark.column)) = (text ++ [mark]).head?.map fun first => count first.column := by
    cases text <;> rfl
  simp only [gathering, State.begin_within, hstart, List.map_append, List.map_singleton,
    String.push_eq_append, String.ofList_append, String.singleton_eq_ofList]

/-- What a sign ends is the gathered text. -/
theorem endedBySign_gathering (quote : Option Char) (text : List Mark) (column : ν) :
    (Context.mk ((gathering quote text : Context ν).state.begin column)
        (gathering quote text : Context ν).pending).endedBySign column =
      (keptLexemes text).toArray := by
  cases text with
  | nil => rfl
  | cons first rest => simp [endedBySign, gathering, keptLexemes, Lexeme.ofText]

end Context

/-! ## One character -/

namespace Progress

variable {quote : Option Char} {text : List Mark} {column : ℕ} {found : Array (Lexeme ν)}
  {c : Char}

/-- A space outside literals is passed over. -/
theorem step_dropped (h : Mark.isKept ⟨quote, column + 1, c⟩ = false) :
    Progress.step ⟨.gathering quote text, count column, found⟩ c =
      ⟨.gathering quote text, count (column + 1), found⟩ := by
  obtain ⟨rfl, rfl⟩ : quote = none ∧ c = ' ' := by
    simpa [Mark.isKept] using h
  rw [Progress.step, if_pos ⟨rfl, by simp [State.isQuoted]⟩, next_count]

/-- What is kept is not passed over. -/
private theorem not_passed_over (h : Mark.isKept ⟨quote, column + 1, c⟩) :
    ¬ (c = ' ' ∧ (Context.gathering quote text : Context ν).state.isQuoted = false) := by
  rintro ⟨rfl, houtside⟩
  rw [State.isQuoted, Context.quote_gathering] at houtside
  simp [Mark.isKept, houtside] at h

/-- Other text is gathered. -/
theorem step_kept (hkept : Mark.isKept ⟨quote, column + 1, c⟩)
    (htext : Mark.isDelimiter ⟨quote, column + 1, c⟩ = false) :
    Progress.step ⟨.gathering quote text, count column, found⟩ c =
      ⟨.gathering quote (text ++ [⟨quote, column + 1, c⟩]), count (column + 1), found⟩ := by
  have hsign : ((Context.gathering quote text).state.begin (count (column + 1) : ν)).afterSign? c =
      none := by
    rw [State.afterSign?_eq, State.quote_begin, Context.quote_gathering]
    exact if_neg (Bool.not_eq_true _ ▸ htext)
  rw [Progress.step, if_neg (not_passed_over hkept), ← Context.gathering_concat]
  simp only [next_count, hsign]

/-- A delimiter closes the gathered text, if there is any, and is a lexeme itself. -/
theorem step_delimiter (h : Mark.isDelimiter ⟨quote, column + 1, c⟩) :
    Progress.step ⟨.gathering quote text, count column, found⟩ c =
      ⟨.gathering (Literal.next quote c) [], count (column + 1),
        found ++ (keptLexemes text ++ [Mark.sign ⟨quote, column + 1, c⟩]).toArray⟩ := by
  have hsign : ((Context.gathering quote text).state.begin (count (column + 1) : ν)).afterSign? c =
      some (State.within (Literal.next quote c) none) := by
    rw [State.afterSign?_eq, State.quote_begin, Context.quote_gathering]
    exact if_pos h
  rw [Progress.step, if_neg (not_passed_over (Mark.isKept_of_isDelimiter h))]
  simp only [next_count, hsign, Context.endedBySign_gathering]
  simp [Context.gathering, Mark.sign, Lexeme.ofSign]

end Progress

/-! ## A whole line -/

namespace Context

/-- After a beginning of a line, the scan has found what is closed and holds what was gathered
since. -/
theorem pass_gathering (quote : Option Char) (characters : List Char) :
    (gathering quote [] : Context ν).pass characters =
      ⟨gathering (Literal.after quote characters) (gathered (marks quote 1 characters)),
        count characters.length, (lexemes (closed (marks quote 1 characters))).toArray⟩ := by
  induction characters using List.reverseRecOn with
  | nil => rfl
  | append_singleton characters c ih =>
      set line := marks quote 1 characters
      set mark : Mark := ⟨Literal.after quote characters, characters.length + 1, c⟩
      have hmarks : marks quote 1 (characters ++ [c]) = line ++ [mark] := by
        rw [marks_concat, Nat.add_comm 1]
      rw [pass_concat, ih, hmarks, Literal.after_append, List.length_append]
      cases hdelimiter : mark.isDelimiter with
      | true =>
          rw [Progress.step_delimiter hdelimiter, closed_concat_delimiter hdelimiter,
            gathered_concat_delimiter hdelimiter, lexemes_concat_delimiter hdelimiter,
            lexemes_eq_closed_append line]
          simp [mark]
      | false =>
          have hsame : Literal.after (Literal.after quote characters) [c] =
              Literal.after quote characters := Literal.next_of_not_delimits hdelimiter
          rw [closed_concat_text hdelimiter, gathered_concat_text hdelimiter, hsame]
          cases hkept : mark.isKept with
          | true =>
              rw [Progress.step_kept hkept hdelimiter, List.filter_cons_of_pos hkept]
              rfl
          | false =>
              rw [Progress.step_dropped hkept, List.filter_cons_of_neg (by simp [hkept]),
                List.filter_nil, List.append_nil]
              rfl

/-- The end of a line ends the gathered text, if there is any; only the literal remains. -/
theorem finish_gathering (quote : Option Char) (text : List Mark) (column : ν)
    (found : Array (Lexeme ν)) :
    Progress.finish ⟨gathering quote text, column, found⟩ =
      (gathering quote [], found ++ (keptLexemes text).toArray) := by
  cases text with
  | nil => simp [Progress.finish, gathering, keptLexemes]
  | cons first rest =>
      simp [Progress.finish, gathering, keptLexemes, Lexeme.ofText, State.startColumn_within]

/-- The scan of a line yields its lexemes, and leaves nothing behind but the literal. -/
theorem scan_gathering (quote : Option Char) (line : String) :
    (gathering quote [] : Context ν).scan line =
      (gathering (Literal.after quote (dropSpace line.toList)) [],
        (lexemes (marks quote 1 (dropSpace line.toList))).toArray) := by
  rw [scan, pass_gathering, finish_gathering, lexemes_eq_closed_append (marks _ _ _),
    List.append_toArray]

end Context

end EbnfLexer.Scan

import EbnfLexer.Json.Brackets
import EbnfLexer.Proofs.Json.Numerals
import EbnfLexer.Proofs.Json.Spelling

/-!
# Written values and their readers

`Reader.Reads` says that a reader takes in a written value as it stands: with
blanks before it, with any text behind it that does not go on a number, and
leaving this text untouched.  Numbers are the only values whose end is not
visible in themselves, which is why something is asked of the text behind.

The scalars are shown here, a string for each of the ways to write it.
-/

namespace EbnfLexer.Json

/-! ## Blanks and ends -/

/-- Whether a text has nothing but blanks. -/
def Blank (text : List Char) : Prop := ∀ c ∈ text, isBlank c

theorem Blank.nil : Blank [] := by simp [Blank]

theorem skipBlank_append {blanks : List Char} (h : Blank blanks) (text : List Char) :
    skipBlank (blanks ++ text) = skipBlank text :=
  List.dropWhile_append_of_pos h

theorem skipBlank_cons {c : Char} (h : isBlank c = false) (rest : List Char) :
    skipBlank (c :: rest) = c :: rest :=
  List.dropWhile_cons_of_neg (by simp [h])

theorem skipBlank_blank {blanks : List Char} (h : Blank blanks) : skipBlank blanks = [] := by
  have hskip := skipBlank_append h []
  rw [List.append_nil] at hskip
  exact hskip

theorem extendsNumber_of_isBlank {c : Char} (h : isBlank c) : extendsNumber c = false := by
  simp only [isBlank, Bool.or_eq_true, beq_iff_eq] at h
  rcases h with ((rfl | rfl) | rfl) | rfl <;> decide

theorem Ends.append {blanks rest : List Char} (h : Blank blanks) (hrest : Ends rest) :
    Ends (blanks ++ rest) := by
  cases blanks with
  | nil => exact hrest
  | cons c blanks => exact Ends.cons (extendsNumber_of_isBlank (h c (List.mem_cons_self ..))) _

theorem Ends.blank {blanks : List Char} (h : Blank blanks) : Ends blanks := by
  have hnil : Ends [] := by simp [Ends]
  simpa using Ends.append h hnil

/-- A written value that the reader takes in as it stands, whatever surrounds it. -/
structure Reader.Reads {α : Type} (reader : Reader α) (written : List Char) (value : α) : Prop where
  begins : ∃ c tail, written = c :: tail ∧ isBlank c = false ∧ c ≠ ']'
  reads : ∀ blanks rest, Blank blanks → Ends rest →
    reader.read (blanks ++ (written ++ rest)) = .ok (value, rest)

/-- A text of a written value and blanks around it holds this value. -/
theorem Reader.Reads.decode_eq {α : Type} {reader : Reader α} {written : List Char} {value : α}
    (h : reader.Reads written value) {blanks others : List Char} (hblanks : Blank blanks)
    (hothers : Blank others) :
    decode reader (String.ofList (blanks ++ (written ++ others))) = .ok value := by
  rw [decode, String.toList_ofList, readDocument, h.reads _ _ hblanks (Ends.blank hothers)]
  simp only [skipBlank_blank hothers]

theorem Reader.Reads.decode_append {α : Type} {reader : Reader α} {written : List Char} {value : α}
    (h : reader.Reads written value) {blanks : List Char} (hblanks : Blank blanks) :
    decode reader (String.ofList (written ++ blanks)) = .ok value := by
  have hdecode := h.decode_eq Blank.nil hblanks
  rw [List.nil_append] at hdecode
  exact hdecode

/-! ## Strings -/

/-- A string between its quotation marks, in one of the ways to write it. -/
inductive WritesString (text : String) : List Char → Prop where
  | mk {spelled : List Char} (h : Spells text.toList spelled) :
      WritesString text ('"' :: (spelled ++ ['"']))

theorem writesString_writeString (text : String) : WritesString text (writeString text) :=
  .mk (spells_escaped text.toList)

theorem WritesString.begins {text : String} {written : List Char} (h : WritesString text written) :
    ∃ c tail, written = c :: tail ∧ isBlank c = false ∧ c ≠ ']' := by
  cases h
  exact ⟨'"', _, rfl, by decide, by decide⟩

/-- What is behind the opening quotation mark of a written string is read as the string. -/
theorem WritesString.readString_eq {text : String} {written : List Char}
    (h : WritesString text written) (rest : List Char) :
    ∃ letters, written ++ rest = '"' :: letters ∧ readString letters = .ok (text, rest) := by
  obtain @⟨spelled, h⟩ := h
  refine ⟨spelled ++ '"' :: rest, by simp, readString_spelled h rest⟩

theorem reads_spelled_text {text : String} {written : List Char} (h : WritesString text written) :
    Reader.text.Reads written text := by
  refine ⟨h.begins, ?_⟩
  intro blanks rest hblanks _
  obtain ⟨letters, hshape, hletters⟩ := h.readString_eq rest
  have hread : readText (blanks ++ (written ++ rest)) = .ok (text, rest) := by
    rw [readText, skipBlank_append hblanks, hshape, skipBlank_cons (by decide)]
    exact hletters
  exact hread

theorem reads_text (text : String) : Reader.text.Reads (writeString text) text :=
  reads_spelled_text (writesString_writeString text)

/-- A value is read by its name, if the name is not that of another value before it. -/
theorem reads_spelled_choice {α : Type} (choice : Choice α) {value : α}
    (h : (choice.values.find? fun other => choice.name other == choice.name value) = some value)
    {written : List Char} (hwritten : WritesString (choice.name value) written) :
    (Reader.choice choice).Reads written value := by
  refine ⟨hwritten.begins, ?_⟩
  intro blanks rest hblanks _
  obtain ⟨letters, hshape, hletters⟩ := hwritten.readString_eq rest
  have hname : choice.readName letters = .ok (value, rest) := by
    simp only [Choice.readName, hletters, h]
  have hread : choice.read (blanks ++ (written ++ rest)) = .ok (value, rest) := by
    rw [Choice.read, skipBlank_append hblanks, hshape, skipBlank_cons (by decide)]
    exact hname
  exact hread

theorem reads_choice {α : Type} (choice : Choice α) {value : α}
    (h : (choice.values.find? fun other => choice.name other == choice.name value) = some value) :
    (Reader.choice choice).Reads (writeString (choice.name value)) value :=
  reads_spelled_choice choice h (writesString_writeString _)

/-! ## Truth values and numbers -/

theorem reads_bool (value : Bool) : Reader.bool.Reads (writeBool value) value := by
  cases value with
  | true =>
      refine ⟨⟨'t', _, rfl, by decide, by decide⟩, ?_⟩
      intro blanks rest hblanks _
      have hread : readBool (blanks ++ 't' :: 'r' :: 'u' :: 'e' :: rest) = .ok (true, rest) := by
        rw [readBool, skipBlank_append hblanks, skipBlank_cons (by decide)]
        rfl
      exact hread
  | false =>
      refine ⟨⟨'f', _, rfl, by decide, by decide⟩, ?_⟩
      intro blanks rest hblanks _
      have hread : readBool (blanks ++ 'f' :: 'a' :: 'l' :: 's' :: 'e' :: rest) =
          .ok (false, rest) := by
        rw [readBool, skipBlank_append hblanks, skipBlank_cons (by decide)]
        rfl
      exact hread

theorem reads_word (value : UInt64) : Reader.word.Reads (writeNatural value.toNat) value := by
  obtain ⟨first, digits, hwritten, hfirst⟩ := (whole_writeNatural value.toNat).eq_cons
  have hblank : isBlank first = false := by
    cases hblank : isBlank first with
    | false => rfl
    | true =>
        have := extendsNumber_of_isBlank hblank
        simp [extendsNumber, hfirst] at this
  refine ⟨⟨first, digits, hwritten, hblank, ?_⟩, ?_⟩
  · rintro rfl
    contradiction
  · intro blanks rest hblanks hrest
    have hnumber := readNumber_written value hrest
    have hread : readWord (blanks ++ (writeNatural value.toNat ++ rest)) = .ok (value, rest) := by
      rw [hwritten, List.cons_append] at hnumber ⊢
      rw [readWord, skipBlank_append hblanks, skipBlank_cons hblank]
      simp only [hnumber, if_pos (Or.inr hfirst)]
    exact hread

end EbnfLexer.Json

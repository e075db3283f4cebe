import EbnfLexer.Json.Failure

/-!
# Readers

Reading a text yields a value and what remains of the text, or a failure.  A
`Reader` also knows that it takes in at least one character, so that reading
again and again comes to an end: this is what the loops over the elements of a
list and the entries of an object rest on.
-/

namespace EbnfLexer.Json

/-- A way to read values that takes in at least one character for each of them. -/
structure Reader (α : Type) where
  read : List Char → Except Failure (α × List Char)
  shorter : ∀ {text : List Char} {value : α} {rest : List Char},
    read text = .ok (value, rest) → rest.length < text.length

/-! ## Blank characters -/

/-- The blank characters of JSON. -/
def isBlank (c : Char) : Bool := c == ' ' || c == '\n' || c == '\t' || c == '\r'

/-- The text after the blank characters at its beginning. -/
def skipBlank (text : List Char) : List Char := text.dropWhile isBlank

theorem length_dropWhile_le (p : Char → Bool) (text : List Char) :
    (text.dropWhile p).length ≤ text.length :=
  (List.dropWhile_suffix p).length_le

theorem length_skipBlank_le (text : List Char) : (skipBlank text).length ≤ text.length :=
  length_dropWhile_le isBlank text

theorem length_lt_of_skipBlank {text rest : List Char} {c : Char}
    (h : skipBlank text = c :: rest) : rest.length < text.length := by
  have bound := length_skipBlank_le text
  rw [h, List.length_cons] at bound
  exact bound

/-! ## Whole texts -/

/-- The value of a text that holds nothing else but blank characters around it. -/
def readDocument {α : Type} (reader : Reader α) (text : List Char) : Except Failure α :=
  match reader.read text with
  | .error failure => .error failure
  | .ok (value, rest) =>
    match skipBlank rest with
    | [] => .ok value
    | rest => .error (Cause.trailingCharacters.within rest)

/-- The value that a text holds, or in words why it holds none. -/
def decode {α : Type} (reader : Reader α) (text : String) : Except String α :=
  match readDocument reader text.toList with
  | .ok value => .ok value
  | .error failure => .error (failure.message text.toList)

/-! ## Steps that succeed

What stands in a text that was read is said once for each way to read, in a lemma whose
name ends in `_eq_ok`.  All else about reading that succeeded rests on these. -/

variable {ε α β : Type}

/-- A second step succeeds only where the first one did. -/
theorem bind_eq_ok {result : Except ε α} {next : α → Except ε β} {value : β}
    (h : (result >>= next) = .ok value) :
    ∃ first, result = .ok first ∧ next first = .ok value := by
  cases result with
  | error _ => contradiction
  | ok first => exact ⟨first, rfl, h⟩

/-- A result that was changed comes from a result. -/
theorem map_eq_ok {result : Except ε α} {f : α → β} {value : β}
    (h : result.map f = .ok value) : ∃ first, result = .ok first ∧ f first = value := by
  cases result with
  | error _ => contradiction
  | ok first => exact ⟨first, rfl, Except.ok.inj h⟩

/-- A text that was read for the sake of a value it stands for. -/
theorem map_pair_eq_ok {result : Except ε α} {value found : β} {rest : α}
    (h : result.map (fun rest => (value, rest)) = .ok (found, rest)) :
    value = found ∧ result = .ok rest := by
  obtain ⟨after, hresult, hpair⟩ := map_eq_ok h
  obtain ⟨hvalue, rfl⟩ := Prod.mk.inj hpair
  exact ⟨hvalue, hresult⟩

theorem decode_eq_ok {reader : Reader α} {text : String} {value : α}
    (h : decode reader text = .ok value) :
    ∃ rest, reader.read text.toList = .ok (value, rest) := by
  cases hread : reader.read text.toList with
  | error failure => simp [decode, readDocument, hread] at h
  | ok found =>
    obtain ⟨read, rest⟩ := found
    cases hblank : skipBlank rest with
    | nil =>
      simp only [decode, readDocument, hread, hblank] at h
      cases h
      exact ⟨rest, rfl⟩
    | cons c tail => simp [decode, readDocument, hread, hblank] at h

end EbnfLexer.Json

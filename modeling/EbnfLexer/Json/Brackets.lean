import EbnfLexer.Json.Scalars

/-!
# Values with parts

The parts of a list or an object stand between brackets.  The closing bracket is
looked for even when a part could not be read, because some mistakes belong to
the whole value and not to one of its parts: a missing field, for instance.
Such a mistake is found without a place, and its place is where the search for
the closing bracket ended.  Any other mistake among the parts has its place
already and is reported as it is.
-/

namespace EbnfLexer.Json

/-- Why the parts of a value could not all be read. -/
inductive Stop where
  /-- A part has a mistake in it. -/
  | part (failure : Failure)
  /-- The value as a whole has a mistake, found where `text` remains. -/
  | whole (cause : Cause) (text : List Char)
  deriving DecidableEq, Repr

/-- A failure to find a closing bracket, and where the search for it ended. -/
structure Unclosed where
  failure : Failure
  text : List Char
  deriving DecidableEq, Repr

/-- The closing bracket of an object. -/
def closeObject (text : List Char) : Except Unclosed (List Char) :=
  match skipBlank text with
  | [] => .error ⟨Cause.endOfObject.within [], []⟩
  | c :: rest =>
    if c = '}' then .ok rest
    else if c = ',' then .error ⟨Cause.trailingComma.within (c :: rest), c :: rest⟩
    else .error ⟨Cause.trailingCharacters.within (c :: rest), c :: rest⟩

/-- The closing bracket of a list. -/
def closeList (text : List Char) : Except Unclosed (List Char) :=
  match skipBlank text with
  | [] => .error ⟨Cause.endOfList.within [], []⟩
  | c :: rest =>
    if c = ']' then .ok rest
    else if c = ',' then
      let after := skipBlank rest
      match after with
      | ']' :: _ => .error ⟨Cause.trailingComma.within after, after⟩
      | _ => .error ⟨Cause.trailingCharacters.within after, after⟩
    else .error ⟨Cause.trailingCharacters.within (c :: rest), c :: rest⟩

/-- The value made of some parts, once the closing bracket has been looked for. -/
def enclosed {α : Type} (parts : Except Stop (α × List Char))
    (close : List Char → Except Unclosed (List Char)) : Except Failure (α × List Char) :=
  match parts with
  | .ok (value, text) =>
    match close text with
    | .ok rest => .ok (value, rest)
    | .error unclosed => .error unclosed.failure
  | .error (.part failure) => .error failure
  | .error (.whole cause text) =>
    match close text with
    | .ok rest => .error (cause.at rest)
    | .error unclosed => .error (cause.at unclosed.text)

/-- What a search for the next part has found. -/
inductive Next where
  /-- A part, which begins where `text` remains. -/
  | part (text : List Char)
  /-- The closing bracket, which `text` begins with. -/
  | closing (text : List Char)
  deriving DecidableEq, Repr

/-- The next element of a list, where all but the first have a comma before them. -/
def nextElement (first : Bool) (text : List Char) : Except Failure Next :=
  match skipBlank text with
  | [] => .error (Cause.endOfList.within [])
  | c :: rest =>
    if c = ']' then .ok (.closing (c :: rest))
    else if first then .ok (.part (c :: rest))
    else if c = ',' then
      match skipBlank rest with
      | [] => .error (Cause.endOfValue.within [])
      | ']' :: after => .error (Cause.trailingComma.within (']' :: after))
      | after => .ok (.part after)
    else .error (Cause.expectedListSeparator.within (c :: rest))

/-- The quotation mark before a key; what remains after it. -/
def openKey (text : List Char) : Except Failure Next :=
  match text with
  | '"' :: rest => .ok (.part rest)
  | _ => .error (Cause.keyNotString.within text)

/-- The next key of an object, where all but the first have a comma before them; what remains
after its opening quotation mark. -/
def nextKey (first : Bool) (text : List Char) : Except Failure Next :=
  match skipBlank text with
  | [] => .error (Cause.endOfObject.within [])
  | c :: rest =>
    if c = '}' then .ok (.closing (c :: rest))
    else if first then openKey (c :: rest)
    else if c = ',' then
      match skipBlank rest with
      | [] => .error (Cause.endOfValue.within [])
      | '}' :: after => .error (Cause.trailingComma.within ('}' :: after))
      | after => openKey after
    else .error (Cause.expectedObjectSeparator.within (c :: rest))

theorem nextElement_length_le {first : Bool} {text rest : List Char}
    (h : nextElement first text = .ok (.part rest)) : rest.length ≤ text.length := by
  have hblank := length_skipBlank_le text
  cases hbegin : skipBlank text with
  | nil => simp [nextElement, hbegin] at h
  | cons c tail =>
    rw [hbegin, List.length_cons] at hblank
    have htail := length_skipBlank_le tail
    unfold nextElement at h
    grind

theorem nextElement_closing_length_le {first : Bool} {text rest : List Char}
    (h : nextElement first text = .ok (.closing rest)) : rest.length ≤ text.length := by
  have := length_skipBlank_le text
  unfold nextElement at h
  grind

theorem nextKey_length_le {first : Bool} {text rest : List Char}
    (h : nextKey first text = .ok (.part rest)) : rest.length ≤ text.length := by
  have hblank := length_skipBlank_le text
  cases hbegin : skipBlank text with
  | nil => simp [nextKey, hbegin] at h
  | cons c tail =>
    rw [hbegin, List.length_cons] at hblank
    have htail := length_skipBlank_le tail
    unfold nextKey openKey at h
    grind

theorem nextKey_closing_length_le {first : Bool} {text rest : List Char}
    (h : nextKey first text = .ok (.closing rest)) : rest.length ≤ text.length := by
  have := length_skipBlank_le text
  unfold nextKey openKey at h
  grind

theorem closeObject_shorter {text rest : List Char}
    (h : closeObject text = .ok rest) : rest.length < text.length := by
  have := length_skipBlank_le text
  unfold closeObject at h
  grind

theorem closeList_shorter {text rest : List Char}
    (h : closeList text = .ok rest) : rest.length < text.length := by
  have := length_skipBlank_le text
  unfold closeList at h
  grind

theorem enclosed_eq_ok {α : Type} {parts : Except Stop (α × List Char)}
    {close : List Char → Except Unclosed (List Char)} {value : α} {rest : List Char}
    (h : enclosed parts close = .ok (value, rest)) :
    ∃ text, parts = .ok (value, text) ∧ close text = .ok rest := by
  rcases parts with (failure | ⟨cause, text⟩) | ⟨found, text⟩
  · contradiction
  · cases hclose : close text <;> simp [enclosed, hclose] at h
  · cases hclose : close text with
    | error unclosed => simp [enclosed, hclose] at h
    | ok after =>
      simp only [enclosed, hclose] at h
      cases h
      exact ⟨text, rfl, hclose⟩

/-! ## Lists of any length -/

/-- The elements of a list from the present place on, behind those already read. -/
def readElements {α : Type} (reader : Reader α) (read : Array α) (text : List Char) :
    Except Stop (Array α × List Char) :=
  match h : nextElement read.isEmpty text with
  | .error failure => .error (.part failure)
  | .ok (.closing rest) => .ok (read, rest)
  | .ok (.part begun) =>
    match h : reader.read begun with
    | .error failure => .error (.part failure)
    | .ok (value, rest) =>
      have : rest.length < text.length :=
        Nat.lt_of_lt_of_le (reader.shorter h) (nextElement_length_le (by assumption))
      readElements reader (read.push value) rest
termination_by text.length

theorem readElements_length_le {α : Type} {reader : Reader α} {read values : Array α}
    {text rest : List Char} (h : readElements reader read text = .ok (values, rest)) :
    rest.length ≤ text.length := by
  fun_induction readElements reader read text with
  | case1 => contradiction
  | case2 read text rest closing =>
    cases h
    exact nextElement_closing_length_le closing
  | case3 => contradiction
  | case4 read text begun part value tail same this ih =>
    have := ih h
    omega

/-- A list whose elements are read in one way. -/
def readList {α : Type} (reader : Reader α) (text : List Char) :
    Except Failure (List α × List Char) :=
  match skipBlank text with
  | [] => .error (Cause.endOfValue.within [])
  | c :: rest =>
    if c = '[' then
      (enclosed (readElements reader #[] rest) closeList).map fun (values, rest) =>
        (values.toList, rest)
    else .error (mismatch "a sequence" (c :: rest))

theorem readList_shorter {α : Type} {reader : Reader α} {values : List α}
    {text rest : List Char} (h : readList reader text = .ok (values, rest)) :
    rest.length < text.length := by
  cases hbegin : skipBlank text with
  | nil => simp [readList, hbegin] at h
  | cons c tail =>
    by_cases hbracket : c = '['
    · simp only [readList, hbegin, hbracket, if_true] at h
      obtain ⟨⟨elements, after⟩, hread, hpair⟩ := map_eq_ok h
      cases hpair
      obtain ⟨before, hparts, hclose⟩ := enclosed_eq_ok hread
      calc after.length
          < before.length := closeList_shorter hclose
        _ ≤ tail.length := readElements_length_le hparts
        _ < text.length := length_lt_of_skipBlank hbegin
    · simp [readList, hbegin, hbracket] at h

/-- Lists whose elements are read in one way. -/
def Reader.list {α : Type} (reader : Reader α) : Reader (List α) :=
  ⟨readList reader, readList_shorter⟩

end EbnfLexer.Json

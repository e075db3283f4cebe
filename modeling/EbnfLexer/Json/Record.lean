import EbnfLexer.Json.Brackets
import EbnfLexer.Json.Skip

/-!
# Records

A record is a value with named fields.  It is written as an object, whose
entries may come in any order, or as a list of the fields in their own order.
An object may have other entries, which are passed over; no field may be given
twice.

The fields read so far are kept in a draft.  What a draft without some fields
amounts to is for the record to say: the field may be missing, or have a default.
-/

namespace EbnfLexer.Json

/-- A field of a record whose drafts have type `δ`. -/
structure Field (δ : Type) where
  name : String
  /-- Whether a draft has the field. -/
  present : δ → Bool
  /-- The draft with the field as it is read from a text. -/
  read : δ → List Char → Except Failure (δ × List Char)
  shorter : ∀ {draft : δ} {text : List Char} {result : δ} {rest : List Char},
    read draft text = .ok (result, rest) → rest.length < text.length

/-- The field with a given name that a reader reads and a function puts into a draft. -/
def Field.of {δ α : Type} (name : String) (present : δ → Bool) (reader : Reader α)
    (put : δ → α → δ) : Field δ where
  name := name
  present := present
  read draft text :=
    match reader.read text with
    | .ok (value, rest) => .ok (put draft value, rest)
    | .error failure => .error failure
  shorter {draft text result rest} h := by
    cases hread : reader.read text with
    | error failure => simp [hread] at h
    | ok found =>
      obtain ⟨value, after⟩ := found
      simp only [hread] at h
      cases h
      exact reader.shorter hread

/-- A sort of records. -/
structure Record (δ α : Type) where
  /-- What is said to be expected where the record is missing. -/
  name : String
  /-- What is said to be expected where a list has too few fields. -/
  arity : String
  /-- The draft without any field. -/
  empty : δ
  /-- The fields in their own order. -/
  fields : List (Field δ)
  /-- The record that a draft makes, or the name of the first field that is missing. -/
  finish : δ → Except String α

namespace Record

variable {δ α : Type}

/-- One entry of an object, from after the opening quotation mark of its key. -/
def readEntry (record : Record δ α) (draft : δ) (text : List Char) :
    Except Stop (δ × List Char) :=
  match readString text with
  | .error failure => .error (.part failure)
  | .ok (key, rest) =>
    match record.fields.find? fun field => field.name == key with
    | some field =>
      if field.present draft then .error (.whole (.duplicateField key) rest)
      else
        match readColon rest with
        | .error failure => .error (.part failure)
        | .ok rest =>
          match field.read draft rest with
          | .error failure => .error (.part failure)
          | .ok (draft, rest) => .ok (draft, rest)
    | none =>
      match readColon rest with
      | .error failure => .error (.part failure)
      | .ok rest =>
        match skipValue rest with
        | .error failure => .error (.part failure)
        | .ok rest => .ok (draft, rest)

/-- An entry that was read is a field that the draft did not have, or was passed over. -/
theorem readEntry_eq_ok {record : Record δ α} {draft result : δ} {text rest : List Char}
    (h : record.readEntry draft text = .ok (result, rest)) :
    ∃ key afterKey afterColon, readString text = .ok (key, afterKey) ∧
      readColon afterKey = .ok afterColon ∧
      ((∃ field, (record.fields.find? fun field => field.name == key) = some field ∧
          field.present draft = false ∧ field.read draft afterColon = .ok (result, rest)) ∨
        (record.fields.find? fun field => field.name == key) = none ∧
          skipValue afterColon = .ok rest ∧ result = draft) := by
  cases hkey : readString text with
  | error failure => simp [readEntry, hkey] at h
  | ok found =>
    obtain ⟨key, afterKey⟩ := found
    cases hfield : record.fields.find? fun field => field.name == key with
    | none =>
      cases hcolon : readColon afterKey with
      | error failure => simp [readEntry, hkey, hfield, hcolon] at h
      | ok afterColon =>
        cases hvalue : skipValue afterColon with
        | error failure => simp [readEntry, hkey, hfield, hcolon, hvalue] at h
        | ok after =>
          simp only [readEntry, hkey, hfield, hcolon, hvalue] at h
          cases h
          exact ⟨key, afterKey, afterColon, rfl, hcolon, Or.inr ⟨hfield, hvalue, rfl⟩⟩
    | some field =>
      by_cases hpresent : field.present draft
      · simp [readEntry, hkey, hfield, hpresent] at h
      cases hcolon : readColon afterKey with
      | error failure => simp [readEntry, hkey, hfield, hpresent, hcolon] at h
      | ok afterColon =>
        cases hvalue : field.read draft afterColon with
        | error failure => simp [readEntry, hkey, hfield, hpresent, hcolon, hvalue] at h
        | ok further =>
          simp only [readEntry, hkey, hfield, hpresent, hcolon, hvalue] at h
          cases h
          have habsent : field.present draft = false := Bool.eq_false_iff.mpr hpresent
          exact ⟨key, afterKey, afterColon, rfl, hcolon, Or.inl ⟨field, hfield, habsent, hvalue⟩⟩

theorem readEntry_shorter {record : Record δ α} {draft result : δ} {text rest : List Char}
    (h : record.readEntry draft text = .ok (result, rest)) : rest.length < text.length := by
  obtain ⟨key, afterKey, afterColon, hkey, hcolon, hvalue⟩ := readEntry_eq_ok h
  have hshorter : rest.length < afterColon.length := by
    rcases hvalue with ⟨field, -, -, hread⟩ | ⟨-, hskip, -⟩
    · exact field.shorter hread
    · exact skipValue_shorter hskip
  calc rest.length
      < afterColon.length := hshorter
    _ < afterKey.length := readColon_shorter hcolon
    _ < text.length := readString_shorter hkey

/-- The entries of an object from the present place on, put into a draft. -/
def readEntries (record : Record δ α) (first : Bool) (draft : δ) (text : List Char) :
    Except Stop (δ × List Char) :=
  match h : nextKey first text with
  | .error failure => .error (.part failure)
  | .ok (.closing rest) => .ok (draft, rest)
  | .ok (.part begun) =>
    match h : record.readEntry draft begun with
    | .error stop => .error stop
    | .ok (draft, rest) =>
      have : rest.length < text.length :=
        Nat.lt_of_lt_of_le (readEntry_shorter h) (nextKey_length_le (by assumption))
      readEntries record false draft rest
termination_by text.length

theorem readEntries_length_le {record : Record δ α} {first : Bool} {draft result : δ}
    {text rest : List Char} (h : record.readEntries first draft text = .ok (result, rest)) :
    rest.length ≤ text.length := by
  fun_induction readEntries record first draft text with
  | case1 => contradiction
  | case2 first draft text rest closing =>
    cases h
    exact nextKey_closing_length_le closing
  | case3 => contradiction
  | case4 first draft text begun key result tail same this ih =>
    have := ih h
    omega

/-- A record from the entries of an object. -/
def readObject (record : Record δ α) (text : List Char) : Except Stop (α × List Char) :=
  match record.readEntries true record.empty text with
  | .error stop => .error stop
  | .ok (draft, rest) =>
    match record.finish draft with
    | .ok value => .ok (value, rest)
    | .error name => .error (.whole (.missingField name) rest)

/-- A record from the elements of a list, of which `count` have been put into a draft and some
fields are still to be read. -/
def readFields (record : Record δ α) (count : Nat) (draft : δ) (fields : List (Field δ))
    (text : List Char) : Except Stop (α × List Char) :=
  let short := Cause.invalidLength count record.arity
  match fields with
  | [] =>
    match record.finish draft with
    | .ok value => .ok (value, text)
    | .error _ => .error (.whole short text)
  | field :: fields =>
    match nextElement (count == 0) text with
    | .error failure => .error (.part failure)
    | .ok (.closing rest) =>
      match record.finish draft with
      | .ok value => .ok (value, rest)
      | .error _ => .error (.whole short rest)
    | .ok (.part begun) =>
      match field.read draft begun with
      | .error failure => .error (.part failure)
      | .ok (draft, rest) => readFields record (count + 1) draft fields rest

/-- A record, written as an object or as a list. -/
def read (record : Record δ α) (text : List Char) : Except Failure (α × List Char) :=
  match skipBlank text with
  | [] => .error (Cause.endOfValue.within [])
  | c :: rest =>
    if c = '{' then enclosed (record.readObject rest) closeObject
    else if c = '[' then
      enclosed (record.readFields 0 record.empty record.fields rest) closeList
    else .error (mismatch record.name (c :: rest))

theorem readObject_eq_ok {record : Record δ α} {value : α} {text rest : List Char}
    (h : record.readObject text = .ok (value, rest)) :
    ∃ draft, record.readEntries true record.empty text = .ok (draft, rest) ∧
      record.finish draft = .ok value := by
  cases hentries : record.readEntries true record.empty text with
  | error stop => simp [readObject, hentries] at h
  | ok found =>
    obtain ⟨draft, after⟩ := found
    cases hfinish : record.finish draft with
    | error name => simp [readObject, hentries, hfinish] at h
    | ok finished =>
      simp only [readObject, hentries, hfinish] at h
      cases h
      exact ⟨draft, rfl, hfinish⟩

theorem readObject_length_le {record : Record δ α} {value : α} {text rest : List Char}
    (h : record.readObject text = .ok (value, rest)) : rest.length ≤ text.length := by
  obtain ⟨draft, hentries, -⟩ := readObject_eq_ok h
  exact readEntries_length_le hentries

theorem readFields_length_le {record : Record δ α} {count : Nat} {draft : δ}
    {fields : List (Field δ)} {value : α} {text rest : List Char}
    (h : record.readFields count draft fields text = .ok (value, rest)) :
    rest.length ≤ text.length := by
  induction fields generalizing count draft text with
  | nil =>
    cases hfinish : record.finish draft with
    | error name => simp [readFields, hfinish] at h
    | ok finished =>
      simp only [readFields, hfinish] at h
      cases h
      exact Nat.le_refl _
  | cons field fields ih =>
    cases hnext : nextElement (count == 0) text with
    | error failure => simp [readFields, hnext] at h
    | ok next =>
      cases next with
      | closing after =>
        cases hfinish : record.finish draft with
        | error name => simp [readFields, hnext, hfinish] at h
        | ok finished =>
          simp only [readFields, hnext, hfinish] at h
          cases h
          exact nextElement_closing_length_le hnext
      | part begun =>
        cases hfield : field.read draft begun with
        | error failure => simp [readFields, hnext, hfield] at h
        | ok further =>
          obtain ⟨fuller, after⟩ := further
          simp only [readFields, hnext, hfield] at h
          calc rest.length
              ≤ after.length := ih h
            _ ≤ begun.length := Nat.le_of_lt (field.shorter hfield)
            _ ≤ text.length := nextElement_length_le hnext

theorem read_shorter {record : Record δ α} {value : α} {text rest : List Char}
    (h : record.read text = .ok (value, rest)) : rest.length < text.length := by
  cases hbegin : skipBlank text with
  | nil => simp [read, hbegin] at h
  | cons c tail =>
    have htail := length_lt_of_skipBlank hbegin
    simp only [read, hbegin] at h
    by_cases hbrace : c = '{'
    · rw [if_pos hbrace] at h
      obtain ⟨before, hparts, hclose⟩ := enclosed_eq_ok h
      calc rest.length
          < before.length := closeObject_shorter hclose
        _ ≤ tail.length := readObject_length_le hparts
        _ < text.length := htail
    rw [if_neg hbrace] at h
    by_cases hbracket : c = '['
    · rw [if_pos hbracket] at h
      obtain ⟨before, hparts, hclose⟩ := enclosed_eq_ok h
      calc rest.length
          < before.length := closeList_shorter hclose
        _ ≤ tail.length := readFields_length_le hparts
        _ < text.length := htail
    · rw [if_neg hbracket] at h
      contradiction

/-- Records of one sort. -/
def reader (record : Record δ α) : Reader α := ⟨record.read, record.read_shorter⟩

end Record

end EbnfLexer.Json

import EbnfLexer.Json.Record
import EbnfLexer.Proofs.Json.Reads
import Mathlib.Data.List.Forall2

/-!
# Written lists and objects

Between the brackets of a list or an object stand its parts, with commas between
them and blanks around all of these.  `Between` describes such a text, and `Further`
its rest behind the first part.  Both layouts write texts of this form
(`Layout.enclose_eq`).

A list is read if its parts are (`reads_list`).  The entries of an object change the
draft of a record one after the other: `Record.Takes` is the step of one entry,
`Record.TakesAll` the run over all of them, and the object is the record that the
last draft makes (`Record.reads_object`).
-/

namespace EbnfLexer.Json

/-! ## Texts between brackets -/

/-- The parts behind the first one, each with a comma before it. -/
inductive Further : List (List Char) → List Char → Prop where
  | done {blanks : List Char} (h : Blank blanks) : Further [] blanks
  | next {before after part text : List Char} {parts : List (List Char)} (hbefore : Blank before)
      (hafter : Blank after) (htext : Further parts text) :
      Further (part :: parts) (before ++ ',' :: (after ++ (part ++ text)))

/-- The parts of a value, as they stand between its brackets. -/
inductive Between : List (List Char) → List Char → Prop where
  | none {blanks : List Char} (h : Blank blanks) : Between [] blanks
  | some {before part text : List Char} {parts : List (List Char)} (hbefore : Blank before)
      (htext : Further parts text) : Between (part :: parts) (before ++ (part ++ text))

/-- What stands behind a part ends it. -/
theorem Further.ends {parts : List (List Char)} {text : List Char} (h : Further parts text)
    {closing : Char} (hclosing : extendsNumber closing = false) (rest : List Char) :
    Ends (text ++ closing :: rest) := by
  cases h with
  | done hblanks => exact Ends.append hblanks (Ends.cons hclosing rest)
  | next hbefore hafter htext =>
      rw [List.append_assoc]
      exact Ends.append hbefore (Ends.cons (by decide) _)

theorem blank_lineBreak (layout : Layout) (depth : ℕ) : Blank (layout.lineBreak depth) := by
  cases layout with
  | compact => exact Blank.nil
  | indented =>
      intro c hc
      rcases List.mem_cons.mp hc with rfl | hspaces
      · decide
      · rw [(List.mem_replicate.mp hspaces).2]
        decide

theorem colon_eq (layout : Layout) : ∃ blanks, Blank blanks ∧ layout.colon = ':' :: blanks := by
  cases layout with
  | compact => exact ⟨[], Blank.nil, rfl⟩
  | indented => exact ⟨[' '], by simp [Blank, isBlank], rfl⟩

theorem further_intercalate {gap blanks : List Char} (hgap : Blank gap) (hblanks : Blank blanks)
    (part : List Char) (parts : List (List Char)) :
    ∃ text, Further parts text ∧
      List.intercalate (',' :: gap) (part :: parts) ++ blanks = part ++ text := by
  induction parts generalizing part with
  | nil => exact ⟨blanks, Further.done hblanks, by rw [List.intercalate_singleton]⟩
  | cons next parts ih =>
      obtain ⟨text, htext, heq⟩ := ih next
      refine ⟨_, Further.next Blank.nil hgap htext, ?_⟩
      rw [List.intercalate_cons_cons, List.append_assoc, heq]
      simp

/-- Both layouts write commas between the parts, and blanks around them. -/
theorem Layout.enclose_eq (layout : Layout) (depth : ℕ) (opening closing : Char)
    (parts : List (List Char)) :
    ∃ text, layout.enclose depth opening closing parts = opening :: (text ++ [closing]) ∧
      Between parts text := by
  cases parts with
  | nil => exact ⟨[], rfl, Between.none Blank.nil⟩
  | cons part parts =>
      have hgap := blank_lineBreak layout (depth + 1)
      obtain ⟨text, htext, heq⟩ :=
        further_intercalate hgap (blank_lineBreak layout depth) part parts
      refine ⟨_, ?_, Between.some hgap htext⟩
      rw [← heq]
      simp [Layout.enclose]

/-! ## Lists -/

section

variable {α : Type} {reader : Reader α} {read : Array α} {text rest : List Char}

theorem readElements_closing (h : nextElement read.isEmpty text = .ok (.closing rest)) :
    readElements reader read text = .ok (read, rest) := by
  rw [readElements]
  split
  · next hnext => rw [h] at hnext; cases hnext
  · next hnext =>
    rw [h] at hnext
    cases hnext
    rfl
  · next hnext => rw [h] at hnext; cases hnext

theorem readElements_part {begun : List Char} {value : α}
    (h : nextElement read.isEmpty text = .ok (.part begun))
    (hvalue : reader.read begun = .ok (value, rest)) :
    readElements reader read text = readElements reader (read.push value) rest := by
  rw [readElements]
  split
  · next hnext => rw [h] at hnext; cases hnext
  · next hnext => rw [h] at hnext; cases hnext
  · next hnext =>
    rw [h] at hnext
    cases hnext
    split
    · next hread => rw [hvalue] at hread; cases hread
    · next hread =>
      rw [hvalue] at hread
      cases hread
      rfl

theorem nextElement_closing (first : Bool) {blanks : List Char} (h : Blank blanks)
    (rest : List Char) :
    nextElement first (blanks ++ ']' :: rest) = .ok (.closing (']' :: rest)) := by
  rw [nextElement, skipBlank_append h, skipBlank_cons (by decide)]
  rfl

theorem nextElement_first {blanks : List Char} (h : Blank blanks) {c : Char}
    (hc : isBlank c = false) (hclosing : c ≠ ']') (rest : List Char) :
    nextElement true (blanks ++ c :: rest) = .ok (.part (c :: rest)) := by
  rw [nextElement, skipBlank_append h, skipBlank_cons hc]
  simp only [if_neg hclosing, if_pos]

theorem nextElement_further {before after : List Char} (hbefore : Blank before)
    (hafter : Blank after) {c : Char} (hc : isBlank c = false) (hclosing : c ≠ ']')
    (rest : List Char) :
    nextElement false (before ++ ',' :: (after ++ c :: rest)) = .ok (.part (c :: rest)) := by
  rw [nextElement, skipBlank_append hbefore, skipBlank_cons (by decide)]
  dsimp only
  rw [if_neg (by decide), if_neg (by decide), if_pos rfl, skipBlank_append hafter,
    skipBlank_cons hc]
  split
  · next heq => cases heq
  · next heq =>
    cases heq
    exact absurd rfl hclosing
  · rfl

/-- The elements behind the first one. -/
theorem readElements_further {parts : List (List Char)} {values : List α}
    (htext : Further parts text) (hvalues : List.Forall₂ reader.Reads parts values)
    (hread : read.isEmpty = false) (rest : List Char) :
    readElements reader read (text ++ ']' :: rest) =
      .ok (read ++ values.toArray, ']' :: rest) := by
  induction htext generalizing read values with
  | done hblanks =>
      cases hvalues
      rw [readElements_closing (nextElement_closing _ hblanks rest)]
      simp
  | @next before after part text parts hbefore hafter htext ih =>
      cases hvalues with
      | @cons _ value _ values hvalue hvalues =>
          obtain ⟨⟨c, tail, hpart, hc, hclosing⟩, hreads⟩ := hvalue
          have hnext : nextElement read.isEmpty
              (before ++ ',' :: (after ++ (part ++ text)) ++ ']' :: rest) =
                .ok (.part (part ++ (text ++ ']' :: rest))) := by
            rw [hread, hpart]
            simpa using
              nextElement_further hbefore hafter hc hclosing (tail ++ (text ++ ']' :: rest))
          rw [readElements_part hnext (hreads [] _ Blank.nil (htext.ends (by decide) rest)),
            ih hvalues (by simp)]
          simp

/-- A list is read if its elements are. -/
theorem reads_list {parts : List (List Char)} {values : List α} (htext : Between parts text)
    (hvalues : List.Forall₂ reader.Reads parts values) :
    reader.list.Reads ('[' :: (text ++ [']'])) values := by
  have helements : ∀ rest, readElements reader #[] (text ++ ']' :: rest) =
      .ok (values.toArray, ']' :: rest) := by
    intro rest
    cases htext with
    | none hblanks =>
        cases hvalues
        exact readElements_closing (nextElement_closing _ hblanks rest)
    | @some before part text parts hbefore htext =>
        cases hvalues with
        | @cons _ value _ values hvalue hvalues =>
            obtain ⟨⟨c, tail, hpart, hc, hclosing⟩, hreads⟩ := hvalue
            have hnext : nextElement (#[] : Array α).isEmpty
                (before ++ (part ++ text) ++ ']' :: rest) =
                  .ok (.part (part ++ (text ++ ']' :: rest))) := by
              rw [hpart]
              simpa using nextElement_first hbefore hc hclosing (tail ++ (text ++ ']' :: rest))
            rw [readElements_part hnext (hreads [] _ Blank.nil (htext.ends (by decide) rest)),
              readElements_further htext hvalues (by simp)]
            simp
  refine ⟨⟨'[', _, rfl, by decide, by decide⟩, ?_⟩
  intro blanks rest hblanks _
  have hlist : readList reader (blanks ++ '[' :: (text ++ ']' :: rest)) = .ok (values, rest) := by
    rw [readList, skipBlank_append hblanks, skipBlank_cons (by decide)]
    have hclose : closeList (']' :: rest) = .ok rest := rfl
    simp only [if_pos, helements, enclosed, hclose]
    rfl
  have hshape : '[' :: (text ++ [']']) ++ rest = '[' :: (text ++ ']' :: rest) := by simp
  rw [hshape]
  exact hlist

/-- A list is read back as either layout writes it. -/
theorem reads_list_written {parts : List (List Char)} {values : List α} (layout : Layout)
    (depth : ℕ) (hvalues : List.Forall₂ reader.Reads parts values) :
    reader.list.Reads (layout.list depth parts) values := by
  obtain ⟨text, hwritten, htext⟩ := layout.enclose_eq depth '[' ']' parts
  rw [Layout.list, hwritten]
  exact reads_list htext hvalues

end

/-! ## Objects -/

theorem nextKey_closing (first : Bool) {blanks : List Char} (h : Blank blanks) (rest : List Char) :
    nextKey first (blanks ++ '}' :: rest) = .ok (.closing ('}' :: rest)) := by
  rw [nextKey, skipBlank_append h, skipBlank_cons (by decide)]
  rfl

theorem nextKey_first {blanks : List Char} (h : Blank blanks) (rest : List Char) :
    nextKey true (blanks ++ '"' :: rest) = .ok (.part rest) := by
  rw [nextKey, skipBlank_append h, skipBlank_cons (by decide)]
  rfl

theorem nextKey_further {before after : List Char} (hbefore : Blank before) (hafter : Blank after)
    (rest : List Char) :
    nextKey false (before ++ ',' :: (after ++ '"' :: rest)) = .ok (.part rest) := by
  rw [nextKey, skipBlank_append hbefore, skipBlank_cons (by decide)]
  dsimp only
  rw [if_neg (by decide), if_neg (by decide), if_pos rfl, skipBlank_append hafter,
    skipBlank_cons (by decide)]
  rfl

theorem readColon_written {blanks : List Char} (h : Blank blanks) (rest : List Char) :
    readColon (blanks ++ ':' :: rest) = .ok rest := by
  rw [readColon, skipBlank_append h, skipBlank_cons (by decide)]
  rfl

namespace Record

variable {δ α : Type} {record : Record δ α} {draft result : δ} {text rest : List Char}

/-- An entry of an object makes a draft into another one. -/
def Takes (record : Record δ α) (draft : δ) (entry : List Char) (result : δ) : Prop :=
  ∃ key, entry = '"' :: key ∧
    ∀ rest, Ends rest → record.readEntry draft (key ++ rest) = .ok (result, rest)

/-- The entries of an object make a draft into another one, one after the other. -/
inductive TakesAll (record : Record δ α) : δ → List (List Char) → δ → Prop where
  | nil (draft : δ) : TakesAll record draft [] draft
  | cons {draft next result : δ} {entry : List Char} {entries : List (List Char)}
      (hentry : record.Takes draft entry next) (hentries : TakesAll record next entries result) :
      TakesAll record draft (entry :: entries) result

/-- A field takes in the entry under its key, if the draft does not have it yet. -/
theorem takes_field {β : Type} {key : String} {present : δ → Bool} {reader : Reader β}
    {put : δ → β → δ} {spelled before after written : List Char} {value : β}
    (hfield : (record.fields.find? fun field => field.name == key) =
      some (Field.of key present reader put))
    (habsent : present draft = false)
    (hspelled : ∀ rest, readString (spelled ++ rest) = .ok (key, rest))
    (hbefore : Blank before) (hafter : Blank after) (hwritten : reader.Reads written value) :
    record.Takes draft ('"' :: (spelled ++ (before ++ ':' :: (after ++ written))))
      (put draft value) := by
  refine ⟨_, rfl, ?_⟩
  intro rest hrest
  have hpresent : (Field.of key present reader put).present draft = false := habsent
  have hread : (Field.of key present reader put).read draft (after ++ (written ++ rest)) =
      .ok (put draft value, rest) := by
    simp only [Field.of, hwritten.reads after rest hafter hrest]
  have hshape : spelled ++ (before ++ ':' :: (after ++ written)) ++ rest =
      spelled ++ (before ++ ':' :: (after ++ (written ++ rest))) := by simp
  rw [hshape, readEntry]
  simp [hspelled, hfield, hpresent, readColon_written hbefore, hread]

theorem readEntries_closing {first : Bool} (h : nextKey first text = .ok (.closing rest)) :
    record.readEntries first draft text = .ok (draft, rest) := by
  rw [readEntries]
  split
  · next hnext => rw [h] at hnext; cases hnext
  · next hnext =>
    rw [h] at hnext
    cases hnext
    rfl
  · next hnext => rw [h] at hnext; cases hnext

theorem readEntries_part {first : Bool} {begun : List Char}
    (h : nextKey first text = .ok (.part begun))
    (hentry : record.readEntry draft begun = .ok (result, rest)) :
    record.readEntries first draft text = record.readEntries false result rest := by
  rw [readEntries]
  split
  · next hnext => rw [h] at hnext; cases hnext
  · next hnext => rw [h] at hnext; cases hnext
  · next hnext =>
    rw [h] at hnext
    cases hnext
    split
    · next hread => rw [hentry] at hread; cases hread
    · next hread =>
      rw [hentry] at hread
      cases hread
      rfl

/-- The entries behind the first one. -/
theorem readEntries_further {entries : List (List Char)} (htext : Further entries text)
    (hentries : record.TakesAll draft entries result) (rest : List Char) :
    record.readEntries false draft (text ++ '}' :: rest) = .ok (result, '}' :: rest) := by
  induction htext generalizing draft with
  | done hblanks =>
      cases hentries
      exact readEntries_closing (nextKey_closing _ hblanks rest)
  | @next before after entry text entries hbefore hafter htext ih =>
      cases hentries with
      | cons hentry hentries =>
          obtain ⟨key, rfl, htakes⟩ := hentry
          have hnext : nextKey false
              (before ++ ',' :: (after ++ ('"' :: key ++ text)) ++ '}' :: rest) =
                .ok (.part (key ++ (text ++ '}' :: rest))) := by
            simpa using nextKey_further hbefore hafter (key ++ (text ++ '}' :: rest))
          rw [readEntries_part hnext (htakes _ (htext.ends (by decide) rest))]
          exact ih hentries

/-- An object is read as the record that its entries make. -/
theorem reads_object {entries : List (List Char)} {value : α} (htext : Between entries text)
    (hentries : record.TakesAll record.empty entries result)
    (hfinish : record.finish result = .ok value) :
    record.reader.Reads ('{' :: (text ++ ['}'])) value := by
  have hdraft : ∀ rest, record.readEntries true record.empty (text ++ '}' :: rest) =
      .ok (result, '}' :: rest) := by
    intro rest
    cases htext with
    | none hblanks =>
        cases hentries
        exact readEntries_closing (nextKey_closing _ hblanks rest)
    | @some before entry text entries hbefore htext =>
        cases hentries with
        | cons hentry hentries =>
            obtain ⟨key, rfl, htakes⟩ := hentry
            have hnext : nextKey true (before ++ ('"' :: key ++ text) ++ '}' :: rest) =
                .ok (.part (key ++ (text ++ '}' :: rest))) := by
              simpa using nextKey_first hbefore (key ++ (text ++ '}' :: rest))
            rw [readEntries_part hnext (htakes _ (htext.ends (by decide) rest))]
            exact readEntries_further htext hentries rest
  refine ⟨⟨'{', _, rfl, by decide, by decide⟩, ?_⟩
  intro blanks rest hblanks _
  have hclose : closeObject ('}' :: rest) = .ok rest := rfl
  have hobject : record.read (blanks ++ '{' :: (text ++ '}' :: rest)) = .ok (value, rest) := by
    rw [read, skipBlank_append hblanks, skipBlank_cons (by decide)]
    simp only [if_pos, readObject, hdraft, hfinish, enclosed, hclose]
  have hshape : '{' :: (text ++ ['}']) ++ rest = '{' :: (text ++ '}' :: rest) := by simp
  rw [hshape]
  exact hobject

/-! ## Both layouts -/

theorem takes_written {β : Type} {key : String} {present : δ → Bool} {reader : Reader β}
    {put : δ → β → δ} {written : List Char} {value : β} (layout : Layout)
    (hfield : (record.fields.find? fun field => field.name == key) =
      some (Field.of key present reader put))
    (habsent : present draft = false) (hput : put draft value = result)
    (hwritten : reader.Reads written value) :
    record.Takes draft (writeString key ++ layout.colon ++ written) result := by
  obtain ⟨blanks, hblanks, hcolon⟩ := colon_eq layout
  have hspelled : ∀ rest, readString (key.toList.flatMap escaped ++ ['"'] ++ rest) =
      .ok (key, rest) := by
    intro rest
    rw [List.append_assoc]
    exact readString_spelled (spells_escaped key.toList) rest
  have htakes := takes_field hfield habsent hspelled Blank.nil hblanks hwritten
  rw [hcolon, ← hput]
  simpa [writeString] using htakes

/-- A record is read back from the object that either layout writes. -/
theorem reads_written {entries : List (String × List Char)} {value : α} (layout : Layout)
    (depth : ℕ)
    (hentries : record.TakesAll record.empty
      (entries.map fun (key, written) => writeString key ++ layout.colon ++ written) result)
    (hfinish : record.finish result = .ok value) :
    record.reader.Reads (layout.object depth entries) value := by
  obtain ⟨text, hwritten, htext⟩ := layout.enclose_eq depth '{' '}' _
  rw [Layout.object, hwritten]
  exact reads_object htext hentries hfinish

end Record

end EbnfLexer.Json

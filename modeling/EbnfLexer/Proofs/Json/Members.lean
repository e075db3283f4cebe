import EbnfLexer.Proofs.Json.Grammar

/-!
# Objects with any members

The members of an object stand in any order, under keys that are written in any way, and
hold any values (`Member`).  For a record a member is one of its fields, or it is skipped
and leaves the draft as it is (`Record.takes_unknown`).

A field that is given twice is a mistake whatever the values are.  To see this one has to
know where the second key is found, behind a value that was not skipped but read.  The
readers take in the same text that skipping passes over (`Reader.Skips`), so a value that
is read ends where it ends by the grammar.  From then on the field is present
(`Record.Settles`), and no reading gets past its second key
(`Record.readEntries_repeated`).
-/

namespace EbnfLexer.Json

open Grammar

/-- A member of an object: a key, how it is written, a value, and the blanks around the colon
between them. -/
structure Member where
  key : String
  letters : List Char
  before : List Char
  after : List Char
  value : List Char
  spells : Spells key.toList letters
  blank_before : Blank before
  blank_after : Blank after
  isValue : Value value

namespace Member

/-- A member from after the opening quotation mark of its key. -/
def begun (member : Member) : List Char :=
  member.letters ++ '"' :: (member.before ++ ':' :: (member.after ++ member.value))

/-- A member as it stands in an object. -/
def text (member : Member) : List Char := '"' :: member.begun

theorem begun_append (member : Member) (rest : List Char) :
    member.begun ++ rest =
      member.letters ++
        '"' :: (member.before ++ ':' :: (member.after ++ (member.value ++ rest))) := by
  simp [begun]

end Member

theorem value_writeString (text : String) : Value (writeString text) :=
  .string (spells_escaped text.toList).letters

theorem value_writeBool (value : Bool) : Value (writeBool value) := by
  cases value with
  | false => exact .wordFalse
  | true => exact .wordTrue

/-- A member as it is written on one line. -/
def Member.written (key : String) {value : List Char} (h : Value value) : Member where
  key := key
  letters := key.toList.flatMap escaped
  before := []
  after := []
  value := value
  spells := spells_escaped key.toList
  blank_before := Blank.nil
  blank_after := Blank.nil
  isValue := h

theorem Member.text_written (key : String) {value : List Char} (h : Value value) :
    (Member.written key h).text = writeString key ++ Layout.compact.colon ++ value := by
  simp [Member.written, text, begun, writeString, Layout.colon]

/-- A text of an object with some members, and of blanks around it. -/
def IsObject (members : List Member) (text : List Char) : Prop :=
  ∃ before inner after, Blank before ∧ Blank after ∧ Between (members.map Member.text) inner ∧
    text = before ++ ('{' :: (inner ++ ['}']) ++ after)

/-! ## Members that a record takes in -/

namespace Record

variable {δ α : Type} {record : Record δ α} {draft : δ} {member : Member}

/-- A member under the name of a field is taken in if the draft does not have the field. -/
theorem takes_member (record : Record δ α) {β : Type} {name : String} {present : δ → Bool}
    {reader : Reader β} {put : δ → β → δ} {value : β} (hname : member.key = name)
    (hfield : (record.fields.find? fun field => field.name == name) =
      some (Field.of name present reader put))
    (habsent : present draft = false) (hvalue : reader.Reads member.value value) :
    record.Takes draft member.text (put draft value) := by
  subst hname
  have hspelled : ∀ rest,
      readString (member.letters ++ ['"'] ++ rest) = .ok (member.key, rest) := by
    intro rest
    rw [List.append_assoc]
    exact readString_spelled member.spells rest
  have htakes :=
    takes_field hfield habsent hspelled member.blank_before member.blank_after hvalue
  rw [List.append_assoc] at htakes
  exact htakes

/-- A member under any other name is skipped. -/
theorem takes_unknown
    (hfield : (record.fields.find? fun field => field.name == member.key) = none) :
    record.Takes draft member.text draft := by
  refine ⟨_, rfl, ?_⟩
  intro rest hrest
  have hskip := skipValue_written member.isValue member.blank_after hrest
  rw [member.begun_append, readEntry]
  simp only [readString_spelled member.spells, hfield, readColon_written member.blank_before, hskip]

end Record

/-! ## What is read is what would be skipped -/

section

variable {text rest : List Char}

theorem skipValue_of_beginning (h : skipBeginning text = .ok (none, rest)) :
    skipValue text = .ok rest := by
  rw [skipValue, skipFrom_of_beginning h, skipFrom_value_nil]

theorem skipBeginning_of_string {tail : List Char} (h : skipBlank text = '"' :: tail)
    (hstring : skipString tail = .ok rest) : skipBeginning text = .ok (none, rest) := by
  rw [skipBeginning, h]
  simp [hstring, Except.map]

end

/-- A reader that takes in what skipping passes over. -/
def Reader.Skips {α : Type} (reader : Reader α) : Prop :=
  ∀ text value rest, reader.read text = .ok (value, rest) → skipValue text = .ok rest

theorem skips_text : Reader.text.Skips := by
  intro text value rest hread
  obtain ⟨tail, hbegin, hstring⟩ := readText_eq_ok hread
  exact skipValue_of_beginning (skipBeginning_of_string hbegin (skipString_of_readString hstring))

theorem skips_bool : Reader.bool.Skips := by
  intro text value rest hread
  refine skipValue_of_beginning ?_
  obtain ⟨tail, ⟨hbegin, hletters⟩ | ⟨hbegin, hletters⟩⟩ := readBool_eq_ok hread
  · simp [skipBeginning, hbegin, hletters, Except.map]
  · simp [skipBeginning, hbegin, hletters, Except.map]

section

variable {α : Type} {choice : Choice α} {text rest : List Char} {value : α}

theorem skipString_of_readName (h : choice.readName text = .ok (value, rest)) :
    skipString text = .ok rest := by
  obtain ⟨name, hread⟩ := Choice.readName_eq_ok h
  exact skipString_of_readString hread

/-- The object that stands for a name is skipped from its opening on. -/
theorem skipFrom_of_readKey (h : choice.readKey text = .ok (value, rest)) :
    skipFrom [.object] .opening text = .ok rest := by
  obtain ⟨tail, afterName, afterColon, afterNull, hbegin, hname, hcolon, hnull, hend⟩ :=
    Choice.readKey_eq_ok h
  -- The object has one member only, and its value is null.
  have hkey : skipKey .object text = .ok afterColon := by
    rw [skipKey, hbegin]
    simp only [if_pos, skipString_of_readName hname, bind, Except.bind, hcolon]
  have hvalue : skipBeginning afterColon = .ok (none, afterNull) := by
    obtain ⟨letters, hletter, hletters⟩ := readNull_eq_ok hnull
    simp only [skipBeginning, hletter, if_pos, hletters, Except.map]
  rw [skipFrom_opening_part hbegin (by decide) hkey, skipFrom_of_beginning hvalue,
    skipFrom_value_closing hend, skipFrom_value_nil]

end

theorem skips_choice {α : Type} (choice : Choice α) : (Reader.choice choice).Skips := by
  intro text value rest hread
  obtain ⟨tail, ⟨hbegin, hname⟩ | ⟨hbegin, hkey⟩⟩ := Choice.read_eq_ok hread
  · exact skipValue_of_beginning (skipBeginning_of_string hbegin (skipString_of_readName hname))
  · have hopening : skipBeginning text = .ok (some .object, tail) := by
      rw [skipBeginning, hbegin]
      rfl
    rw [skipValue, skipFrom_of_opening hopening]
    exact skipFrom_of_readKey hkey

/-! ## Repeated fields -/

theorem Field.of_read_eq_ok {δ β : Type} {name : String} {present : δ → Bool} {reader : Reader β}
    {put : δ → β → δ} {draft result : δ} {text rest : List Char}
    (h : (Field.of name present reader put).read draft text = .ok (result, rest)) :
    ∃ value, reader.read text = .ok (value, rest) ∧ put draft value = result := by
  cases hread : reader.read text with
  | error failure => simp [Field.of, hread] at h
  | ok found =>
    obtain ⟨value, after⟩ := found
    simp only [Field.of, hread] at h
    cases h
    exact ⟨value, rfl, rfl⟩

namespace Record

variable {δ α : Type} {record : Record δ α} {draft result : δ} {text rest : List Char}

/-- A record whose fields take in whole values, and are present from then on. -/
structure Settles (record : Record δ α) : Prop where
  skips : ∀ field ∈ record.fields, ∀ draft text result rest,
    field.read draft text = .ok (result, rest) → skipValue text = .ok rest
  settles : ∀ field ∈ record.fields, ∀ draft text result rest,
    field.read draft text = .ok (result, rest) → field.present result
  keeps : ∀ field ∈ record.fields, ∀ other ∈ record.fields, ∀ draft text result rest,
    field.read draft text = .ok (result, rest) → other.present draft → other.present result

/-- A member that is taken in was no field of the draft, is one from then on, and is taken in as
far as it goes. -/
theorem Settles.of_readEntry (hsettles : record.Settles) {member : Member} {after : List Char}
    (hrest : Ends rest) (h : record.readEntry draft (member.begun ++ rest) = .ok (result, after)) :
    after = rest ∧ ∀ field ∈ record.fields,
      ((record.fields.find? fun other => other.name == member.key) = some field →
        field.present draft = false ∧ field.present result) ∧
      (field.present draft → field.present result) := by
  have hskip := skipValue_written member.isValue member.blank_after hrest
  obtain ⟨key, afterKey, afterColon, hkey, hcolon, hvalue⟩ := readEntry_eq_ok h
  rw [member.begun_append, readString_spelled member.spells] at hkey
  cases hkey
  rw [readColon_written member.blank_before] at hcolon
  cases hcolon
  rcases hvalue with ⟨known, hknown, habsent, hread⟩ | ⟨hunknown, hskipped, rfl⟩
  · have hmem : known ∈ record.fields := List.mem_of_find?_eq_some hknown
    -- The field stops reading where the value ends by the grammar.
    have hsame := hsettles.skips known hmem _ _ _ _ hread
    rw [hskip] at hsame
    refine ⟨(Except.ok.inj hsame).symm, ?_⟩
    intro field hfield
    refine ⟨?_, hsettles.keeps known hmem field hfield _ _ _ _ hread⟩
    intro hfound
    rw [hknown] at hfound
    cases hfound
    exact ⟨habsent, hsettles.settles known hmem _ _ _ _ hread⟩
  · rw [hskip] at hskipped
    refine ⟨(Except.ok.inj hskipped).symm, ?_⟩
    intro field _
    refine ⟨?_, id⟩
    intro hfound
    rw [hunknown] at hfound
    contradiction

/-- Entries are read only if the next one is. -/
theorem readEntries_eq_ok {first : Bool} {begun : List Char}
    (hnext : nextKey first text = .ok (.part begun))
    (h : record.readEntries first draft text = .ok (result, rest)) :
    ∃ next after, record.readEntry draft begun = .ok (next, after) ∧
      record.readEntries false next after = .ok (result, rest) := by
  cases hentry : record.readEntry draft begun with
  | ok read =>
      obtain ⟨next, after⟩ := read
      rw [readEntries_part hnext hentry] at h
      exact ⟨next, after, rfl, h⟩
  | error stop =>
      rw [readEntries] at h
      split at h
      · next hpart => rw [hnext] at hpart; cases hpart
      · next hpart => rw [hnext] at hpart; cases hpart
      · next hpart =>
        rw [hnext] at hpart
        cases hpart
        split at h
        · contradiction
        · next hread => rw [hentry] at hread; cases hread

/-- A field that is to come twice, or once more. -/
def Repeats (field : Field δ) (draft : δ) (members : List Member) : Prop :=
  let count := (members.filter fun member => field.name == member.key).length
  2 ≤ count ∨ field.present draft ∧ 1 ≤ count

/-- Behind a member that was taken in, a field that was to be repeated still is. -/
theorem Settles.repeats (hsettles : record.Settles) {member : Member} {members : List Member}
    {after : List Char} (hrest : Ends rest)
    (h : record.readEntry draft (member.begun ++ rest) = .ok (result, after)) {field : Field δ}
    (hfield : (record.fields.find? fun other => other.name == field.name) = some field)
    (hrepeats : Repeats field draft (member :: members)) : Repeats field result members := by
  have hmem : field ∈ record.fields := List.mem_of_find?_eq_some hfield
  obtain ⟨hfirst, hkept⟩ := (hsettles.of_readEntry hrest h).2 field hmem
  unfold Repeats at hrepeats ⊢
  -- Under the name of the field this was one of the two, and otherwise both are still to come.
  by_cases hkey : field.name = member.key
  · obtain ⟨habsent, hpresent⟩ := hfirst (by rw [← hkey]; exact hfield)
    rw [List.filter_cons_of_pos (by simpa using hkey), List.length_cons, habsent] at hrepeats
    refine Or.inr ⟨hpresent, ?_⟩
    rcases hrepeats with hcount | ⟨hfalse, _⟩
    · omega
    · contradiction
  · rw [List.filter_cons_of_neg (by simpa using hkey)] at hrepeats
    exact hrepeats.imp_right fun hpresent => ⟨hkept hpresent.1, hpresent.2⟩

theorem not_repeats_nil (field : Field δ) (draft : δ) : ¬Repeats field draft [] := by
  simp [Repeats]

theorem Settles.readEntries_further_repeated (hsettles : record.Settles) {members : List Member}
    (htext : Further (members.map Member.text) text) {field : Field δ}
    (hfield : (record.fields.find? fun other => other.name == field.name) = some field)
    (hrepeats : Repeats field draft members) (rest after : List Char) :
    record.readEntries false draft (text ++ '}' :: rest) ≠ .ok (result, after) := by
  intro h
  induction members generalizing draft text with
  | nil => exact not_repeats_nil field draft hrepeats
  | cons member members ih =>
      obtain _ | @⟨before, blanks, _, text, _, hbefore, hblanks, htext⟩ := htext
      have hnext : nextKey false
          (before ++ ',' :: (blanks ++ (member.text ++ text)) ++ '}' :: rest) =
            .ok (.part (member.begun ++ (text ++ '}' :: rest))) := by
        simpa [Member.text] using
          nextKey_further hbefore hblanks (member.begun ++ (text ++ '}' :: rest))
      have hends : Ends (text ++ '}' :: rest) := htext.ends (by decide) rest
      obtain ⟨next, behind, hentry, h⟩ := readEntries_eq_ok hnext h
      rw [(hsettles.of_readEntry hends hentry).1] at h
      exact ih htext (hsettles.repeats hends hentry hfield hrepeats) h

/-- The entries of an object with a repeated field are not read. -/
theorem Settles.readEntries_repeated (hsettles : record.Settles) {members : List Member}
    (htext : Between (members.map Member.text) text) {field : Field δ}
    (hfield : (record.fields.find? fun other => other.name == field.name) = some field)
    (hrepeats : Repeats field draft members) (rest after : List Char) :
    record.readEntries true draft (text ++ '}' :: rest) ≠ .ok (result, after) := by
  intro h
  cases members with
  | nil => exact not_repeats_nil field draft hrepeats
  | cons member members =>
      obtain _ | @⟨before, _, text, _, hbefore, htext⟩ := htext
      have hnext : nextKey true (before ++ (member.text ++ text) ++ '}' :: rest) =
          .ok (.part (member.begun ++ (text ++ '}' :: rest))) := by
        simpa [Member.text] using nextKey_first hbefore (member.begun ++ (text ++ '}' :: rest))
      have hends : Ends (text ++ '}' :: rest) := htext.ends (by decide) rest
      obtain ⟨next, behind, hentry, h⟩ := readEntries_eq_ok hnext h
      rw [(hsettles.of_readEntry hends hentry).1] at h
      exact hsettles.readEntries_further_repeated htext hfield
        (hsettles.repeats hends hentry hfield hrepeats) rest after h

/-- A text of an object with a repeated field does not hold a record. -/
theorem Settles.decode_repeated (hsettles : record.Settles) {members : List Member} {text : String}
    (htext : IsObject members text.toList) {field : Field δ}
    (hfield : (record.fields.find? fun other => other.name == field.name) = some field)
    (hrepeated : 2 ≤ (members.filter fun member => field.name == member.key).length) (value : α) :
    decode record.reader text ≠ .ok value := by
  intro h
  obtain ⟨before, inner, after, hbefore, _, hinner, htext⟩ := htext
  have hread : ∀ rest, record.read text.toList ≠ .ok (value, rest) := by
    intro rest hread
    have hshape : '{' :: (inner ++ ['}']) ++ after = '{' :: (inner ++ '}' :: after) := by simp
    rw [htext, hshape, read, skipBlank_append hbefore, skipBlank_cons (by decide)] at hread
    simp only [if_pos] at hread
    obtain ⟨behind, hobject, _⟩ := enclosed_eq_ok hread
    obtain ⟨draft, hentries, -⟩ := readObject_eq_ok hobject
    exact hsettles.readEntries_repeated hinner hfield (Or.inl hrepeated) _ _ hentries
  obtain ⟨rest, hvalue⟩ := decode_eq_ok h
  exact hread rest hvalue

end Record

end EbnfLexer.Json

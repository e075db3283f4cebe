import EbnfLexer.Proofs.Json.Members
import EbnfLexer.Proofs.Reading

/-!
# Settings from a file

A file of settings is an object that gives some of the settings, or none, among members
that are not known (`Settings.Gives`).  Each setting that is given overrides its default,
and the defaults are the settings that are in force where no file is found
(`Settings.load_overrides`).

The members fill the draft of the settings one after the other.  A member that gives a
setting finds it missing in the draft, because it is the only one, and any other member
leaves the draft alone; so what the draft is behind all members does not depend on their
order (`Settings.takesAll_members`).
-/

namespace EbnfLexer

open Files Json

namespace Settings

variable {α : Type} {members : List Member} {member : Member} {key : String}
  {Writes : α → List Char → Prop} {given : Option α}

/-- Whether an object has a value under a key as it is given, be it one value in writing or
none. -/
def Gives (members : List Member) (key : String) (Writes : α → List Char → Prop)
    (given : Option α) : Prop :=
  List.Forall₂ (fun value member => Writes value member.value) given.toList
    (members.filter fun member => key == member.key)

theorem Gives.of_cons_ne (h : Gives (member :: members) key Writes given)
    (hkey : member.key ≠ key) : Gives members key Writes given := by
  rw [Gives, List.filter_cons_of_neg (by simpa using hkey.symm)] at h
  exact h

/-- The first member under a key has the given value, and there is no other. -/
theorem Gives.of_cons_eq (h : Gives (member :: members) key Writes given)
    (hkey : member.key = key) :
    ∃ value, given = some value ∧ Writes value member.value ∧ Gives members key Writes none := by
  rw [Gives, List.filter_cons_of_pos (by simpa using hkey.symm)] at h
  cases given with
  | none => cases h
  | some value =>
      obtain _ | ⟨hvalue, hothers⟩ := h
      exact ⟨value, rfl, hvalue, hothers⟩

/-- What a file says of the settings: each of them may be given, as a string or a truth value. -/
structure Given (members : List Member) (outputFormat : Option OutputFormat)
    (prettyJson : Option Bool) (logLevel : Option String) : Prop where
  outputFormat : Gives members "output_format"
    (fun format => WritesString format.name) outputFormat
  prettyJson : Gives members "pretty_json" (fun value written => written = writeBool value)
    prettyJson
  logLevel : Gives members "log_level" WritesString logLevel

/-! ## Members one after the other -/

theorem reads_format {format : OutputFormat} {written : List Char}
    (h : WritesString format.name written) : OutputFormat.reader.Reads written format :=
  reads_spelled_choice ⟨OutputFormat.all, OutputFormat.name⟩ (by cases format <;> rfl) h

/-- The first member under the key of a setting is taken in for it, if the draft does not have the
setting yet. -/
theorem Gives.takes {reader : Reader α} {setting : Draft → Option α} {put : Draft → α → Draft}
    {draft : Draft} (h : Gives (member :: members) key Writes given) (hkey : member.key = key)
    (hfield : (record.fields.find? fun field => field.name == key) =
      some (Field.of key (fun draft => (setting draft).isSome) reader put))
    (hreads : ∀ value written, Writes value written → reader.Reads written value)
    (hfree : given = none ∨ setting draft = none) :
    ∃ value, given = some value ∧ record.Takes draft member.text (put draft value) ∧
      Gives members key Writes none := by
  obtain ⟨value, rfl, hwritten, hothers⟩ := h.of_cons_eq hkey
  have habsent : setting draft = none := hfree.resolve_left (Option.some_ne_none value)
  have htakes := record.takes_member hkey hfield (congrArg Option.isSome habsent)
    (hreads value _ hwritten)
  exact ⟨value, rfl, htakes, hothers⟩

/-- Every member finds the setting that it gives missing, and is skipped if it gives none. -/
theorem takesAll_members {outputFormat : Option OutputFormat} {prettyJson : Option Bool}
    {logLevel : Option String} {draft : Draft} (h : Given members outputFormat prettyJson logLevel)
    (hformat : outputFormat = none ∨ draft.outputFormat = none)
    (hpretty : prettyJson = none ∨ draft.prettyJson = none)
    (hlevel : logLevel = none ∨ draft.logLevel = none) :
    record.TakesAll draft (members.map Member.text)
      ⟨outputFormat.or draft.outputFormat, prettyJson.or draft.prettyJson,
        logLevel.or draft.logLevel⟩ := by
  induction members generalizing draft outputFormat prettyJson logLevel with
  | nil =>
      obtain ⟨hformats, hpretties, hlevels⟩ := h
      cases outputFormat <;> cases hformats
      cases prettyJson <;> cases hpretties
      cases logLevel <;> cases hlevels
      exact .nil draft
  | cons member members ih =>
      obtain ⟨hformats, hpretties, hlevels⟩ := h
      -- The setting that this member gives is in the draft from now on, and no longer to come.
      by_cases hformatKey : member.key = "output_format"
      · obtain ⟨format, rfl, htakes, hothers⟩ :=
          hformats.takes hformatKey rfl (fun _ _ => reads_format) hformat
        have hrest : Given members none prettyJson logLevel :=
          ⟨hothers, hpretties.of_cons_ne (by rw [hformatKey]; decide),
            hlevels.of_cons_ne (by rw [hformatKey]; decide)⟩
        exact .cons htakes (ih hrest (Or.inl rfl) hpretty hlevel)
      by_cases hprettyKey : member.key = "pretty_json"
      · obtain ⟨pretty, rfl, htakes, hothers⟩ :=
          hpretties.takes hprettyKey rfl (fun value _ hwritten => hwritten ▸ reads_bool value)
            hpretty
        have hrest : Given members outputFormat none logLevel :=
          ⟨hformats.of_cons_ne hformatKey, hothers,
            hlevels.of_cons_ne (by rw [hprettyKey]; decide)⟩
        exact .cons htakes (ih hrest hformat (Or.inl rfl) hlevel)
      by_cases hlevelKey : member.key = "log_level"
      · obtain ⟨level, rfl, htakes, hothers⟩ :=
          hlevels.takes hlevelKey rfl (fun _ _ => reads_spelled_text) hlevel
        have hrest : Given members outputFormat prettyJson none :=
          ⟨hformats.of_cons_ne hformatKey, hpretties.of_cons_ne hprettyKey, hothers⟩
        exact .cons htakes (ih hrest hformat hpretty (Or.inl rfl))
      have hunknown : (record.fields.find? fun field => field.name == member.key) = none := by
        simp [record, Field.of, Ne.symm hformatKey, Ne.symm hprettyKey, Ne.symm hlevelKey]
      have hrest : Given members outputFormat prettyJson logLevel :=
        ⟨hformats.of_cons_ne hformatKey, hpretties.of_cons_ne hprettyKey,
          hlevels.of_cons_ne hlevelKey⟩
      exact .cons (Record.takes_unknown hunknown) (ih hrest hformat hpretty hlevel)

/-- The settings that are given override the defaults. -/
theorem decode_members {outputFormat : Option OutputFormat} {prettyJson : Option Bool}
    {logLevel : Option String} {text : String} (htext : IsObject members text.toList)
    (h : Given members outputFormat prettyJson logLevel) :
    decode record.reader text =
      .ok (ofDraft ⟨outputFormat, prettyJson, logLevel⟩) := by
  have htakes : record.TakesAll {} (members.map Member.text) _ :=
    takesAll_members h (Or.inr rfl) (Or.inr rfl) (Or.inr rfl)
  simp only [Option.or_none] at htakes
  obtain ⟨before, inner, after, hbefore, hafter, hinner, htext⟩ := htext
  have hreads := Record.reads_object hinner htakes rfl
  rw [← String.ofList_toList (s := text), htext]
  exact hreads.decode_eq hbefore hafter

/-! ## Settings that are given twice -/

theorem settles_record : record.Settles := by
  refine ⟨?skips, ?settles, ?keeps⟩
  case skips =>
    intro field hfield draft text result rest h
    simp only [record, List.mem_cons, List.not_mem_nil, or_false] at hfield
    rcases hfield with rfl | rfl | rfl
    all_goals obtain ⟨value, hread, _⟩ := Field.of_read_eq_ok h
    · exact skips_choice _ _ _ _ hread
    · exact skips_bool _ _ _ hread
    · exact skips_text _ _ _ hread
  case settles =>
    intro field hfield draft text result rest h
    simp only [record, List.mem_cons, List.not_mem_nil, or_false] at hfield
    rcases hfield with rfl | rfl | rfl
    all_goals
      obtain ⟨value, _, rfl⟩ := Field.of_read_eq_ok h
      rfl
  case keeps =>
    intro field hfield other hother draft text result rest h hpresent
    simp only [record, List.mem_cons, List.not_mem_nil, or_false] at hfield hother
    -- A field that is put in becomes present itself and does not touch the others.
    rcases hfield with rfl | rfl | rfl
    all_goals
      obtain ⟨value, _, rfl⟩ := Field.of_read_eq_ok h
      rcases hother with rfl | rfl | rfl
      all_goals first | rfl | exact hpresent

theorem decode_repeated {text : String} (htext : IsObject members text.toList)
    (hkey : key ∈ ["output_format", "pretty_json", "log_level"])
    (hrepeated : 2 ≤ (members.filter fun member => key == member.key).length) :
    ∃ why, decode record.reader text = .error why := by
  have hfield : ∃ field, (record.fields.find? fun other => other.name == key) = some field := by
    simp only [List.mem_cons, List.not_mem_nil, or_false] at hkey
    rcases hkey with rfl | rfl | rfl
    all_goals exact ⟨_, rfl⟩
  obtain ⟨field, hfound⟩ := hfield
  obtain rfl : field.name = key := by simpa using List.find?_some hfound
  cases hdecoded : decode record.reader text with
  | error why => exact ⟨why, rfl⟩
  | ok settings =>
      exact absurd hdecoded (settles_record.decode_repeated htext hfound hrepeated settings)

/-! ## Written settings -/

/-- The members that settings are written with. -/
def writtenMembers (settings : Settings) : List Member :=
  [.written "output_format" (value_writeString settings.outputFormat.name),
    .written "pretty_json" (value_writeBool settings.prettyJson),
    .written "log_level" (value_writeString settings.logLevel)]

theorem isObject_write (settings : Settings) :
    IsObject settings.writtenMembers settings.write := by
  have hwrite : settings.write =
      Layout.compact.enclose 0 '{' '}' (settings.writtenMembers.map Member.text) := by
    simp [write, Layout.object, writtenMembers, Member.text_written]
  obtain ⟨inner, hinner, hbetween⟩ :=
    Layout.compact.enclose_eq 0 '{' '}' (settings.writtenMembers.map Member.text)
  refine ⟨[], inner, [], Blank.nil, Blank.nil, hbetween, ?_⟩
  rw [hwrite, hinner]
  simp

/-- Written settings give every setting. -/
theorem given_writtenMembers (settings : Settings) :
    Given settings.writtenMembers settings.outputFormat settings.prettyJson settings.logLevel where
  outputFormat := .cons (writesString_writeString _) .nil
  prettyJson := .cons rfl .nil
  logLevel := .cons (writesString_writeString _) .nil

/-- **A file of settings overrides the defaults, setting by setting.**  The defaults are the
settings that are loaded where nothing is found.  An object that gives some settings, among any
other members, is loaded as the defaults with these settings in their place; an object with two
members for one setting is rejected, whatever its members hold; and written settings are loaded as
they are. -/
theorem load_overrides :
    (∃ defaults : Settings,
      (∀ (files : Lookup) (path : String) (obstacle : Obstacle),
        files path = .error obstacle → load files path = .ok defaults) ∧
      ∀ (files : Lookup) (path text : String) (members : List Member)
        (outputFormat : Option OutputFormat) (prettyJson : Option Bool)
        (logLevel : Option String),
        Holds files path text → IsObject members text.toList →
          Given members outputFormat prettyJson logLevel →
            load files path =
              .ok { outputFormat := outputFormat.getD defaults.outputFormat
                    prettyJson := prettyJson.getD defaults.prettyJson
                    logLevel := logLevel.getD defaults.logLevel }) ∧
    (∀ (files : Lookup) (path text : String) (members : List Member) (key : String),
      Holds files path text → IsObject members text.toList →
        key ∈ ["output_format", "pretty_json", "log_level"] →
          2 ≤ (members.filter fun member => key == member.key).length →
            ∃ message, load files path = .error (.config message)) ∧
    (∀ (files : Lookup) (path : String) (settings : Settings),
      Holds files path (String.ofList settings.write) → load files path = .ok settings) := by
  refine ⟨⟨{}, ?absent, ?given⟩, ?repeated, ?written⟩
  case absent =>
    intro files path obstacle h
    exact load_of_inForce (.absent h)
  case given =>
    intro files path text members outputFormat prettyJson logLevel hfile htext h
    exact load_of_inForce (.given hfile (decode_members htext h))
  case repeated =>
    intro files path text members key hfile htext hkey hrepeated
    obtain ⟨why, hwhy⟩ := decode_repeated htext hkey hrepeated
    exact ⟨_, load_of_rejected (.misread hfile hwhy)⟩
  case written =>
    intro files path settings hfile
    have htext : IsObject settings.writtenMembers (String.ofList settings.write).toList := by
      rw [String.toList_ofList]
      exact settings.isObject_write
    exact load_of_inForce (.given hfile (decode_members htext settings.given_writtenMembers))

/-- A member that is not known, of which there are two, around one with an escape in its key; then
a setting that is given twice, once wrongly; and settings as they are written. -/
theorem load_overrides_escaped_key :
    load (fun _ => .ok (.file
        "\x7b\"x\":[[null]],\"log_l\\u0065vel\" : \"debug\",\"x\":[[null]]\x7d".toUTF8)) "c" =
      .ok { logLevel := "debug" } ∧
    (∃ message, load (fun _ => .ok (.file
        "\x7b\"pretty_json\":true,\"pretty_json\":[[null]]\x7d".toUTF8)) "c" =
      .error (.config message)) ∧
    load (fun _ => .ok (.file (String.ofList
        { outputFormat := .json, prettyJson := false : Settings }.write).toUTF8)) "c" =
      .ok { outputFormat := .json, prettyJson := false } := by
  have hlist : ∀ part, Grammar.Value part → Grammar.Value ('[' :: (part ++ [']'])) := by
    intro part hpart
    have hparts : ∀ other ∈ [part], Grammar.Value other := by simpa
    simpa using Grammar.Value.list (.some Blank.nil (.done Blank.nil)) hparts
  have hnested := hlist _ (hlist _ .wordNull)
  have hzero : ('0', 0) ∈ hexDigits := by decide
  have hsix : ('6', 6) ∈ hexDigits := by decide
  have hfive : ('5', 5) ∈ hexDigits := by decide
  have hescape : Spelling 'e' ['\\', 'u', '0', '0', '6', '5'] :=
    .unit (by decide) (.mk hzero hzero hsix hfive rfl)
  let unknown : Member := .written "x" hnested
  let level : Member :=
    { key := "log_level"
      letters := _
      before := [' ']
      after := [' ']
      value := writeString "debug"
      spells := (spells_escaped "log_l".toList).append
        ((Spells.cons hescape .nil).append (spells_escaped "vel".toList))
      blank_before := by simp [Blank, isBlank]
      blank_after := by simp [Blank, isBlank]
      isValue := value_writeString "debug" }
  obtain ⟨⟨defaults, habsent, hgiven⟩, hrepeated, hwritten⟩ := load_overrides
  have hdefaults : defaults = {} := by
    have hload := habsent (fun _ => .error .missing) "c" .missing rfl
    exact (Except.ok.inj hload).symm
  subst hdefaults
  refine ⟨?_, ?_, ?_⟩
  · exact hgiven _ _ _ [unknown, level, unknown] none none (some "debug") rfl
      ⟨[], _, [], .nil, .nil, .some .nil (.next .nil .nil (.next .nil .nil (.done .nil))), rfl⟩
      ⟨.nil, .nil, .cons (writesString_writeString _) .nil⟩
  · exact hrepeated _ _ _
      [.written "pretty_json" (value_writeBool true), .written "pretty_json" hnested]
      "pretty_json" rfl
      ⟨[], _, [], .nil, .nil, .some .nil (.next .nil .nil (.done .nil)), rfl⟩
      (by decide) (Nat.le_refl 2)
  · exact hwritten _ _ _ rfl

end Settings

end EbnfLexer

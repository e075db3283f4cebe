import EbnfLexer.Settings
import EbnfLexer.Source

/-!
# What a run reads

Under every path there is a text, or an obstacle is in the way of it.  `Files.Holds`
and `Files.Hinders` say which, by what is found under the path and not by what reading
it does: a file holds a text if its bytes are the UTF-8 of this text, and a file whose
bytes are the UTF-8 of no text is an obstacle.

For settings there is one case more.  Where nothing is found the defaults are in force
(`Settings.InForce`), but what is found has to be a file with a text that is settings
(`Settings.Rejected`).

Each of these determines what reading answers, and one of them always applies.
-/

namespace EbnfLexer

namespace Files

/-- Whether the file under a path has this text. -/
def Holds (files : Lookup) (path text : String) : Prop :=
  files path = .ok (.file text.toUTF8)

/-- What keeps the text under a path from being read. -/
inductive Hinders (files : Lookup) (path : String) : Obstacle → Prop where
  /-- The path leads nowhere. -/
  | nowhere {obstacle : Obstacle} (h : files path = .error obstacle) :
      Hinders files path obstacle
  | directory (h : files path = .ok .directory) : Hinders files path .isDirectory
  | refusal {reason : String} (h : files path = .ok (.unreadable reason)) :
      Hinders files path (.refused reason)
  | bytes {content : ByteArray} (h : files path = .ok (.file content))
      (hcontent : ∀ text : String, text.toUTF8 ≠ content) : Hinders files path .notText

theorem fromUTF8?_toUTF8 (text : String) : String.fromUTF8? text.toUTF8 = some text :=
  dif_pos text.isValidUTF8

theorem fromUTF8?_eq_none {content : ByteArray} (h : ∀ text : String, text.toUTF8 ≠ content) :
    String.fromUTF8? content = none := by
  apply dif_neg
  intro hvalid
  exact h (String.fromUTF8 content hvalid) rfl

variable {files : Lookup} {path text : String} {obstacle : Obstacle}

/-- The text of a file is what its bytes are the UTF-8 of. -/
theorem readText_file {content : ByteArray} (h : files path = .ok (.file content)) :
    readText files path =
      match String.fromUTF8? content with
      | some text => .ok text
      | none => .error .notText := by
  rw [readText, h]
  rfl

theorem readText_of_holds (h : Holds files path text) : readText files path = .ok text := by
  rw [readText_file h, fromUTF8?_toUTF8]

theorem readText_of_hinders (h : Hinders files path obstacle) :
    readText files path = .error obstacle := by
  cases h with
  | nowhere h => rw [readText, h]
  | directory h => rw [readText, h]; rfl
  | refusal h => rw [readText, h]; rfl
  | bytes h hcontent => rw [readText_file h, fromUTF8?_eq_none hcontent]

/-- What reading answers is what was found says of its text. -/
theorem text_of_hinders {found : Found} (hfound : files path = .ok found)
    (h : Hinders files path obstacle) : found.text = .error obstacle := by
  rw [← readText_of_hinders h, readText, hfound]

theorem text_of_holds (h : Holds files path text) : (Found.file text.toUTF8).text = .ok text := by
  rw [← readText_of_holds h, readText, h]

/-- What is in the way of a text is seen from what is found. -/
theorem Hinders.congr {others : Lookup} {other : String} (h : Hinders files path obstacle)
    (hsame : files path = others other) : Hinders others other obstacle := by
  cases h with
  | nowhere h => exact .nowhere (hsame ▸ h)
  | directory h => exact .directory (hsame ▸ h)
  | refusal h => exact .refusal (hsame ▸ h)
  | bytes h hcontent => exact .bytes (hsame ▸ h) hcontent

/-- There is a text under a path, or something is in the way of it. -/
theorem holds_or_hinders (files : Lookup) (path : String) :
    (∃ text, Holds files path text) ∨ ∃ obstacle, Hinders files path obstacle := by
  cases hfound : files path with
  | error obstacle => exact Or.inr ⟨obstacle, .nowhere hfound⟩
  | ok found =>
      cases found with
      | directory => exact Or.inr ⟨.isDirectory, .directory hfound⟩
      | unreadable reason => exact Or.inr ⟨.refused reason, .refusal hfound⟩
      | file content =>
          by_cases htext : ∃ text : String, text.toUTF8 = content
          · obtain ⟨text, rfl⟩ := htext
            exact Or.inl ⟨text, hfound⟩
          · exact Or.inr ⟨.notText, .bytes hfound (not_exists.mp htext)⟩

end Files

open Files
open Json (decode)

variable {files : Lookup} {path : String}

theorem readLines_of_holds {text : String} (h : Holds files path text) :
    readLines files path = .ok (Text.lines text) := by
  rw [readLines, readText_of_holds h]

theorem readLines_of_hinders {obstacle : Obstacle} (h : Hinders files path obstacle) :
    readLines files path = .error (.io path obstacle.message) := by
  rw [readLines, readText_of_hinders h]

namespace Settings

/-- The settings that a run has when it is told to look for them under a path. -/
inductive InForce (files : Lookup) (path : String) : Settings → Prop where
  /-- Nothing is found, for whatever reason. -/
  | absent {obstacle : Obstacle} (h : files path = .error obstacle) : InForce files path {}
  | given {text : String} {settings : Settings} (h : Holds files path text)
      (hsettings : decode record.reader text = .ok settings) : InForce files path settings

/-- What is wrong with the settings under a path, where something is found. -/
inductive Rejected (files : Lookup) (path : String) : Error → Prop where
  | hindered {found : Found} {obstacle : Obstacle} (hfound : files path = .ok found)
      (h : Hinders files path obstacle) : Rejected files path (.io path obstacle.message)
  | misread {text why : String} (h : Holds files path text)
      (hwhy : decode record.reader text = .error why) :
      Rejected files path (.config (path ++ ": " ++ why))

theorem load_of_inForce {settings : Settings} (h : InForce files path settings) :
    load files path = .ok settings := by
  cases h with
  | absent h => rw [load, h]
  | given h hsettings =>
      rw [load, h]
      simp only [text_of_holds h, hsettings]

theorem load_of_rejected {error : Error} (h : Rejected files path error) :
    load files path = .error error := by
  cases h with
  | hindered hfound h =>
      rw [load, hfound]
      simp only [text_of_hinders hfound h]
  | misread h hwhy =>
      rw [load, h]
      simp only [text_of_holds h, hwhy]

/-- There are settings to go by, or something is wrong with those under the path. -/
theorem inForce_or_rejected (files : Lookup) (path : String) :
    (∃ settings, InForce files path settings) ∨ ∃ error, Rejected files path error := by
  cases hfound : files path with
  | error obstacle => exact Or.inl ⟨{}, .absent hfound⟩
  | ok found =>
      rcases holds_or_hinders files path with ⟨text, htext⟩ | ⟨obstacle, hobstacle⟩
      · cases hdecoded : decode record.reader text with
        | ok settings => exact Or.inl ⟨settings, .given htext hdecoded⟩
        | error why => exact Or.inr ⟨_, .misread htext hdecoded⟩
      · exact Or.inr ⟨_, .hindered hfound hobstacle⟩

/-- Only settings that are in force are loaded. -/
theorem inForce_of_load {settings : Settings} (h : load files path = .ok settings) :
    InForce files path settings := by
  rcases inForce_or_rejected files path with ⟨found, hfound⟩ | ⟨error, herror⟩
  · rw [load_of_inForce hfound] at h
    exact Except.ok.inj h ▸ hfound
  · rw [load_of_rejected herror] at h
    contradiction

end Settings

end EbnfLexer

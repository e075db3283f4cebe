import EbnfLexer.CommandLine.Outcome
import EbnfLexer.Proofs.Reading

/-!
# All tokens or none

A run depends on two files, and each of them may be missing, be something that cannot
be read, or hold something else than it should.  Still there are only three ways in
which a run ends.  It has settings and a text and writes all tokens of the text
(`ofOptions_completed`).  Or its settings are rejected, and then the text is not even
looked for (`ofOptions_rejected`).  Or it has settings and no text
(`ofOptions_hindered`).  In the last two nothing is written, and the complaint names
the file that is to blame.
-/

namespace EbnfLexer.CommandLine

open Files

namespace Outcome

/-- What a run writes for a text.  The format among the options is stronger than the one among the
settings. -/
def printout (options : Options) (settings : Settings) (text : String) : String :=
  let tokens : List (Token UInt64) := tokenize (Text.lines text)
  match options.format.getD settings.outputFormat with
  | .text => String.join (tokens.map fun token => token.listed ++ "\n")
  | .json =>
    String.ofList (writeTokens (if settings.prettyJson then .indented else .compact) tokens) ++ "\n"

theorem render_eq_printout (options : Options) (settings : Settings) (text : String) :
    render (options.format.getD settings.outputFormat) settings.prettyJson
        (tokenize (Text.lines text)) = printout options settings text := by
  unfold printout
  cases options.format.getD settings.outputFormat with
  | text => rfl
  | json => exact String.ofList_append

/-! ## The three ways a run ends -/

variable {files : Lookup} {options : Options} {settings : Settings}

/-- With settings and a text a run writes the tokens of the text. -/
theorem ofOptions_completed {text : String}
    (hsettings : Settings.InForce files options.config settings)
    (htext : Holds files options.input text) :
    ofOptions files options = success (printout options settings text) := by
  rw [ofOptions, Settings.load_of_inForce hsettings]
  simp only [readLines_of_holds htext, render_eq_printout]

/-- Settings that are rejected end a run, whatever the input. -/
theorem ofOptions_rejected {error : Error}
    (h : Settings.Rejected files options.config error) :
    ofOptions files options = failure error := by
  rw [ofOptions, Settings.load_of_rejected h]

/-- With settings but without a text a run ends with what is in the way of the text. -/
theorem ofOptions_hindered {obstacle : Obstacle}
    (hsettings : Settings.InForce files options.config settings)
    (h : Hinders files options.input obstacle) :
    ofOptions files options = failure (.io options.input obstacle.message) := by
  rw [ofOptions, Settings.load_of_inForce hsettings]
  simp only [readLines_of_hinders h]

theorem code_failure_ne_zero (error : Error) : (failure error).code ≠ 0 := by
  have hcode : (failure error).code = 1 := rfl
  rw [hcode]
  decide

/-- A run has settings and a text, or its settings are rejected, or it has settings and no
text. -/
theorem ofOptions_cases (files : Lookup) (options : Options) :
    (∃ settings text, Settings.InForce files options.config settings ∧
      Holds files options.input text) ∨
    (∃ error, Settings.Rejected files options.config error) ∨
    ∃ settings obstacle, Settings.InForce files options.config settings ∧
      Hinders files options.input obstacle := by
  rcases Settings.inForce_or_rejected files options.config with ⟨settings, hsettings⟩ | hrejected
  · rcases holds_or_hinders files options.input with ⟨text, htext⟩ | ⟨obstacle, hobstacle⟩
    · exact Or.inl ⟨settings, text, hsettings, htext⟩
    · exact Or.inr (Or.inr ⟨settings, obstacle, hsettings, hobstacle⟩)
  · exact Or.inr (Or.inl hrejected)

theorem code_ofOptions_eq_zero_iff :
    (ofOptions files options).code = 0 ↔
      ∃ settings text, Settings.InForce files options.config settings ∧
        Holds files options.input text := by
  constructor
  · intro hcode
    rcases ofOptions_cases files options with
      hcompleted | ⟨error, h⟩ | ⟨settings, obstacle, hsettings, h⟩
    · exact hcompleted
    · rw [ofOptions_rejected h] at hcode
      exact absurd hcode (code_failure_ne_zero _)
    · rw [ofOptions_hindered hsettings h] at hcode
      exact absurd hcode (code_failure_ne_zero _)
  · rintro ⟨settings, text, hsettings, htext⟩
    rw [ofOptions_completed hsettings htext]
    rfl

/-! ## Whole command lines -/

theorem ofArguments_eq {arguments : List String}
    (hrun : Request.ofArguments arguments = .ok (.run options)) (files : Lookup) :
    ofArguments files arguments = ofOptions files options := by
  rw [ofArguments, hrun]
  rfl

/-- **A run writes all tokens or none.**  It ends with code 0 exactly if there are settings in
force and a text in the input, and then it writes the tokens of the text in the format that was
chosen.  Otherwise it writes nothing, ends with code 1 and complains: of the settings whenever
they are rejected, and of the input if they are not. -/
theorem all_or_nothing {arguments : List String}
    (hrun : Request.ofArguments arguments = .ok (.run options)) (files : Lookup) :
    ((ofArguments files arguments).code = 0 ↔
      ∃ settings text, Settings.InForce files options.config settings ∧
        Holds files options.input text) ∧
    (∀ settings text, Settings.InForce files options.config settings →
      Holds files options.input text →
        ofArguments files arguments = ⟨0, printout options settings text, none⟩) ∧
    (∀ error, Settings.Rejected files options.config error →
      ofArguments files arguments = ⟨1, "", some ("Error: " ++ error.message)⟩) ∧
    (∀ settings obstacle, Settings.InForce files options.config settings →
      Hinders files options.input obstacle →
        ofArguments files arguments =
          ⟨1, "", some ("Error: " ++ (Error.io options.input obstacle.message).message)⟩) ∧
    ((ofArguments files arguments).code ≠ 0 →
      (∃ error, Settings.Rejected files options.config error) ∨
        ∃ settings obstacle, Settings.InForce files options.config settings ∧
          Hinders files options.input obstacle) := by
  rw [ofArguments_eq hrun]
  refine ⟨code_ofOptions_eq_zero_iff, ?completed, ?rejected, ?hindered, ?failed⟩
  case completed =>
    intro settings text hsettings htext
    exact ofOptions_completed hsettings htext
  case rejected =>
    intro error h
    exact ofOptions_rejected h
  case hindered =>
    intro settings obstacle hsettings h
    exact ofOptions_hindered hsettings h
  case failed =>
    intro hcode
    rcases ofOptions_cases files options with hcompleted | hfailed
    · exact absurd (code_ofOptions_eq_zero_iff.mpr hcompleted) hcode
    · exact hfailed

/-- Settings that ask for JSON on one line, and a run that asks for JSON; then a directory in the
place of the settings and no input at all, of which only the first is complained of. -/
theorem all_or_nothing_json :
    Request.ofArguments ["-i", "g", "--format=json"] =
      .ok (.run { input := "g", format := some .json }) ∧
    ofArguments
        (fun path =>
          if path = "g" then .ok (.file "=".toUTF8)
          else .ok (.file "\x7b\"pretty_json\":false\x7d".toUTF8))
        ["-i", "g", "--format=json"] =
      ⟨0, "[\x7b\"id\":1,\"kind\":\"Define\",\"symbol\":\"=\"," ++
        "\"position\":\x7b\"line\":1,\"column\":1\x7d\x7d]\n", none⟩ ∧
    ofArguments (fun path => if path = "g" then .error .missing else .ok .directory)
        ["-i", "g", "--format=json"] =
      ⟨1, "", some "Error: Failed to read yantlr.json: Is a directory (os error 21)"⟩ := by
  have hrun : Request.ofArguments ["-i", "g", "--format=json"] =
      .ok (.run { input := "g", format := some .json }) := rfl
  refine ⟨hrun, ?_, ?_⟩
  · have hread : (Json.decode Settings.record.reader
        "\x7b\"pretty_json\":false\x7d").toOption = some { prettyJson := false } := by
      decide +kernel
    cases hdecoded : Json.decode Settings.record.reader "\x7b\"pretty_json\":false\x7d" with
    | error why =>
        rw [hdecoded] at hread
        contradiction
    | ok settings =>
        rw [hdecoded] at hread
        obtain rfl := Option.some.inj hread
        have hrest := (all_or_nothing hrun (fun path =>
          if path = "g" then .ok (.file "=".toUTF8)
          else .ok (.file "\x7b\"pretty_json\":false\x7d".toUTF8))).2
        rw [hrest.1 _ "=" (.given (by exact rfl) hdecoded) (by exact rfl)]
        decide +kernel
  · have hrest := (all_or_nothing hrun
      (fun path => if path = "g" then .error .missing else .ok .directory)).2.2
    rw [hrest.1 _ (.hindered rfl (.directory rfl))]
    decide +kernel

end Outcome

end EbnfLexer.CommandLine

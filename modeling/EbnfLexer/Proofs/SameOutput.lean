import EbnfLexer.CommandLine.Transcript
import EbnfLexer.Proofs.Outcome

/-!
# Runs with the same output

Two runs on the same input may be far apart.  Their settings may lie under different
paths and have other levels, other members and another order; one may be verbose and
the other not; and their logs are what their loggers make of all this.  Of these things
the output shows the format and, in JSON, the layout, and nothing else
(`output_eq_of_format_eq`).

There are two steps to this.  A transcript is the outcome of its run with a log before
and behind it, and the log stays out of the output (`ofOptions_eq_within`,
`text_within_output`).  And an outcome reads its settings in one place only, in the
printout of the tokens (`ofOptions_congr`), while a run without an input has no output
whatever is asked of it.
-/

namespace EbnfLexer.CommandLine

open Files

/-! ## The log stays out of the output -/

namespace Transcript

theorem text_within_output (transcript : Transcript) (before after : List String) :
    (transcript.within before after).text .output = transcript.text .output := by
  have hlog : ∀ lines : List String,
      (lines.map errorLine).filter (fun piece => piece.1 = .output) = [] := by
    intro lines
    simp [errorLine]
  simp only [text, within, List.filter_append, hlog, List.nil_append, List.append_nil]

theorem within_empty (transcript : Transcript) : transcript.within [] [] = transcript := by
  simp [within]

theorem text_within_errors (transcript : Transcript) (before : List String) :
    ∃ log, (transcript.within before []).text .errors = log ++ transcript.text .errors := by
  refine ⟨String.join ((before.map errorLine).map (·.2)), ?_⟩
  have hlog : (before.map errorLine).filter (fun piece => piece.1 = .errors) =
      before.map errorLine := by
    simp [errorLine]
  simp only [text, within, List.filter_append, hlog, List.map_nil, List.append_nil,
    List.map_append, String.join_append]

theorem text_ofOutcome_output (outcome : Outcome) :
    (ofOutcome outcome).text .output = outcome.output := by
  obtain ⟨code, output, _ | complaint⟩ := outcome <;>
    simp [text, ofOutcome, errorLine, String.join]

theorem text_ofOutcome_errors (outcome : Outcome) {complaint : String}
    (h : outcome.complaint = some complaint) :
    (ofOutcome outcome).text .errors = complaint ++ "\n" := by
  simp [text, ofOutcome, errorLine, String.join, h]

/-- What a run writes is its outcome and a log.  Nothing is logged behind a complaint. -/
theorem ofOptions_eq_within (environment : Option String) (logger : Logger) (files : Lookup)
    (options : Options) :
    ∃ before after, ofOptions environment logger files options =
        (ofOutcome (Outcome.ofOptions files options)).within before after ∧
      ((Outcome.ofOptions files options).complaint ≠ none → after = []) := by
  unfold ofOptions Outcome.ofOptions
  cases Settings.load files options.config with
  | error error => exact ⟨[], [], (within_empty _).symm, fun _ => rfl⟩
  | ok settings =>
      cases readLines files options.input with
      | error error => exact ⟨_, [], rfl, fun _ => rfl⟩
      | ok lines => exact ⟨_, _, rfl, fun hcomplaint => absurd rfl hcomplaint⟩

/-- **A transcript has the outcome of its command line.**  Code and output are those of the
outcome, and a complaint is the last that is written to the errors. -/
theorem ofArguments_outcome (environment : Option String) (logger : Logger) (files : Lookup)
    (arguments : List String) :
    let transcript := ofArguments environment logger files arguments
    let outcome := Outcome.ofArguments files arguments
    transcript.code = outcome.code ∧ transcript.text .output = outcome.output ∧
      ∀ complaint, outcome.complaint = some complaint →
        ∃ log, transcript.text .errors = log ++ (complaint ++ "\n") := by
  have hwithin : ∃ before after, ofArguments environment logger files arguments =
        (ofOutcome (Outcome.ofArguments files arguments)).within before after ∧
      ((Outcome.ofArguments files arguments).complaint ≠ none → after = []) := by
    unfold ofArguments Outcome.ofArguments
    -- A command line that asks for no run has no log.
    cases Request.ofArguments arguments with
    | error wrong => exact ⟨[], [], (within_empty _).symm, fun _ => rfl⟩
    | ok request =>
        cases request with
        | run options => exact ofOptions_eq_within environment logger files options
        | version => exact ⟨[], [], (within_empty _).symm, fun _ => rfl⟩
        | help => exact ⟨[], [], (within_empty _).symm, fun _ => rfl⟩
  obtain ⟨before, after, heq, hafter⟩ := hwithin
  simp only [heq]
  refine ⟨rfl, ?_, ?_⟩
  · rw [text_within_output, text_ofOutcome_output]
  · intro complaint hcomplaint
    rw [hafter (by simp [hcomplaint]), ← text_ofOutcome_errors _ hcomplaint]
    exact text_within_errors _ before

end Transcript

/-! ## What the output shows of the settings -/

namespace Outcome

variable {files otherFiles : Lookup} {options otherOptions : Options}
  {settings otherSettings : Settings}

/-- A printout depends on the format that is in force, and in JSON on the layout. -/
theorem printout_congr
    (hformat : options.format.getD settings.outputFormat =
      otherOptions.format.getD otherSettings.outputFormat)
    (hpretty : options.format.getD settings.outputFormat = .json →
      settings.prettyJson = otherSettings.prettyJson) (text : String) :
    printout options settings text = printout otherOptions otherSettings text := by
  unfold printout
  rw [← hformat]
  cases hchosen : options.format.getD settings.outputFormat with
  | text => rfl
  | json => rw [hpretty hchosen]

/-- With the same input, and with settings that ask for the same printout, two runs have the same
code and the same output. -/
theorem ofOptions_congr (hsettings : Settings.InForce files options.config settings)
    (hotherSettings : Settings.InForce otherFiles otherOptions.config otherSettings)
    (hinput : files options.input = otherFiles otherOptions.input)
    (hprintout : ∀ text,
      printout options settings text = printout otherOptions otherSettings text) :
    (ofOptions files options).code = (ofOptions otherFiles otherOptions).code ∧
      (ofOptions files options).output = (ofOptions otherFiles otherOptions).output := by
  rcases holds_or_hinders files options.input with ⟨text, htext⟩ | ⟨obstacle, hobstacle⟩
  · have hotherText : Holds otherFiles otherOptions.input text := hinput.symm.trans htext
    rw [ofOptions_completed hsettings htext, ofOptions_completed hotherSettings hotherText,
      hprintout]
    exact ⟨rfl, rfl⟩
  · rw [ofOptions_hindered hsettings hobstacle,
      ofOptions_hindered hotherSettings (hobstacle.congr hinput)]
    exact ⟨rfl, rfl⟩

end Outcome

/-! ## Two runs -/

/-- A run that has been asked for and has got as far as its settings. -/
structure Run where
  arguments : List String
  environment : Option String
  logger : Logger
  files : Lookup
  options : Options
  settings : Settings
  asked : Request.ofArguments arguments = .ok (.run options)
  loaded : Settings.load files options.config = .ok settings

namespace Run

/-- The format that is in force: the one on the command line, or else the one of the settings. -/
def format (run : Run) : OutputFormat := run.options.format.getD run.settings.outputFormat

/-- What a run writes. -/
def transcript (run : Run) : Transcript :=
  .ofArguments run.environment run.logger run.files run.arguments

/-- What is found in place of the input. -/
def input (run : Run) : Except Obstacle Found := run.files run.options.input

/-- **Two runs have the same output if they have the same input and the same format.**  For JSON
they need the same layout too.  Their codes are the same as well, whether there is an input or
not; and of neither does anything else matter: what the log says and how, the paths, the members
of the settings that are overridden, not asked for or not known. -/
theorem output_eq_of_format_eq (run other : Run) (hinput : run.input = other.input)
    (hformat : run.format = other.format)
    (hpretty : run.format = .json → run.settings.prettyJson = other.settings.prettyJson) :
    run.transcript.code = other.transcript.code ∧
      run.transcript.text .output = other.transcript.text .output := by
  obtain ⟨hcode, houtput, _⟩ :=
    Transcript.ofArguments_outcome run.environment run.logger run.files run.arguments
  obtain ⟨hotherCode, hotherOutput, _⟩ :=
    Transcript.ofArguments_outcome other.environment other.logger other.files other.arguments
  have hsame := Outcome.ofOptions_congr (Settings.inForce_of_load run.loaded)
    (Settings.inForce_of_load other.loaded) hinput (Outcome.printout_congr hformat hpretty)
  rw [← Outcome.ofArguments_eq run.asked, ← Outcome.ofArguments_eq other.asked] at hsame
  unfold transcript
  rw [hcode, hotherCode, houtput, hotherOutput]
  exact hsame

/-- A run that is asked for JSON and finds no settings, and a verbose one whose settings are for
JSON.  They have the same input under two paths, and either logs its own directive. -/
theorem output_eq_of_format_eq_overridden :
    ∃ run other : Run,
      (run.arguments = ["-i", "g", "-f", "json"] ∧ run.settings = {} ∧
        run.options.directive run.environment run.settings = "info") ∧
      (other.arguments = ["-v", "--input=h", "-c", "s"] ∧
        other.settings = { outputFormat := .json, logLevel := "trace" } ∧
        other.options.directive other.environment other.settings = "debug") ∧
      (run.input = other.input ∧ run.format = .json ∧ other.format = .json) ∧
      run.transcript.code = other.transcript.code ∧
        run.transcript.text .output = other.transcript.text .output := by
  let members := "\x7b\"log_level\":\"trace\",\"output_format\":\"json\"\x7d"
  let settings : Settings := { outputFormat := .json, logLevel := "trace" }
  have hread : (Json.decode Settings.record.reader members).toOption = some settings := by
    decide +kernel
  have hdecoded : Json.decode Settings.record.reader members = .ok settings := by
    cases hdecode : Json.decode Settings.record.reader members with
    | error why =>
        rw [hdecode] at hread
        contradiction
    | ok found =>
        rw [hdecode] at hread
        exact congrArg Except.ok (Option.some.inj hread)
  let run : Run :=
    { arguments := ["-i", "g", "-f", "json"]
      environment := none
      logger := fun directive _ => [directive]
      files := fun path => if path = "g" then .ok (.file "=".toUTF8) else .error .missing
      options := { input := "g", format := some .json }
      settings := {}
      asked := rfl
      loaded := rfl }
  let other : Run :=
    { arguments := ["-v", "--input=h", "-c", "s"]
      environment := none
      logger := fun directive _ => [directive]
      files := fun path => if path = "h" then .ok (.file "=".toUTF8) else .ok (.file members.toUTF8)
      options := { input := "h", config := "s", verbose := true }
      settings := settings
      asked := rfl
      loaded := Settings.load_of_inForce (.given (by exact rfl) hdecoded) }
  exact ⟨run, other, ⟨rfl, rfl, rfl⟩, ⟨rfl, rfl, rfl⟩, ⟨rfl, rfl, rfl⟩,
    output_eq_of_format_eq run other rfl rfl fun _ => rfl⟩

end Run

end EbnfLexer.CommandLine

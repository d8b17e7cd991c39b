/-
This file says what becomes of a check whose settings cannot be loaded. If the load ends with an error
of the settings, then the check prints it and ends with the exit status for misuse, unless the console
cannot print the line: its wording may be taken for broken markup or hold a surrogate. Many a failure
of another kind breaks the check off instead: so does a number in the place of a list of languages,
which is a slip in the settings file like any other.
-/

import LlmTxt.Proofs.CommandLine.Formats
import LlmTxt.Proofs.Settings.Failure

namespace LlmTxt

open Terminal Text

/-! ### The line of an error -/

namespace LoadFailure

/-- The line that tells a failure on a console. -/
def line (failure : LoadFailure) (console : Console) : List Char :=
  "❌ Error: ".toList ++
    (failure.message ++ (RunFailure.load failure).details console).toList

/-- An error of the settings that a console tells in a line, which it shows as it is. -/
structure IsShowable (failure : LoadFailure) (console : Console) : Prop where
  known : failure.isConfigError = true
  unchanged : IsUnchanged (failure.line console)
  ends : ∀ last ∈ (failure.line console).getLast?, isBlank last = false
  noEscape : (failure.line console).getLast? ≠ some '\\'
  fits : places (failure.line console) ≤ console.width

/-- A console that shows the line of a failure has a width. -/
theorem IsShowable.room {failure : LoadFailure} {console : Console}
    (showable : failure.IsShowable console) : 0 < console.width :=
  calc 0 < places "❌ Error: ".toList := by decide +kernel
    _ ≤ places (failure.line console) := placesAfter_le_append none _ _
    _ ≤ console.width := showable.fits

theorem isPrinted_of_isConfigError {failure : LoadFailure} (known : failure.isConfigError = true) :
    (RunFailure.load failure).isPrinted = true := by
  cases failure with
  | refused refusal => exact known
  | tooLong | badData | notUtf8 | badVariable | nameless | unordered => cases known
  | missingFile | notMapping | unknownSettings | notYaml | notBoolean => rfl

theorem prints_text {failure : LoadFailure} {console : Console}
    (showable : failure.IsShowable console) :
    Prints [printText console ((RunFailure.load failure).text console)]
      [[], failure.line console] := by
  have feed : Markup.IsPlain ['\n'] := isPlain_of_notMem (by decide) (by decide)
  have nothing : Markup.IsPlain [] := isPlain_of_notMem nofun nofun
  have red : Markup.IsStyle "red".toList := Markup.isStyle_of_mem (by decide)
  have shows := Markup.shows_styled red feed (by decide) showable.unchanged.plain showable.noEscape
    nothing.shows
  have text : ((RunFailure.load failure).text console).toList =
      ['\n'] ++ ('[' :: "red".toList ++ ']' ::
        (failure.line console ++ ('[' :: ('/' :: "red".toList) ++ ']' :: []))) := by
    simp [RunFailure.text, RunFailure.message, line]
  rw [← text, List.append_nil] at shows
  exact Prints.nil.cons (printText_of_shows showable.room shows
    (showable.unchanged.isLine showable.ends) showable.unchanged.kept showable.unchanged.whole
    showable.fits)

end LoadFailure

/-! ### The check -/

namespace CheckRequest

variable {request : CheckRequest} {workspace : Workspace} {environment : Environment}
  {console : Console} {failure : LoadFailure}

/-- A check ends as the load of its settings does, if that fails. -/
theorem run_of_load (failed : Settings.load workspace request.settings (some environment) =
    .error failure) :
    request.run workspace environment console = Outcome.ofFailure (.load failure) console := by
  unfold CheckRequest.run
  rw [reports_eq, failed]
  rfl

theorem status_of_load (failed : Settings.load workspace request.settings (some environment) =
    .error failure) {outcome : Outcome}
    (ends : request.run workspace environment console = .ok outcome) :
    outcome.status = Outcome.misused := by
  rw [run_of_load failed] at ends
  unfold Outcome.ofFailure at ends
  split at ends
  · exact status_of_ofPrintouts ends
  · cases ends

/-- Some failures are not told, and break the check off. -/
theorem run_of_unprinted (failed : Settings.load workspace request.settings (some environment) =
    .error failure) (unprinted : (RunFailure.load failure).isPrinted = false) :
    request.run workspace environment console = .error (.failure (.load failure)) := by
  rw [run_of_load failed]
  unfold Outcome.ofFailure
  rw [unprinted]
  rfl

theorem run_of_isConfigError (failed : Settings.load workspace request.settings
    (some environment) = .error failure) (known : failure.isConfigError = true) :
    request.run workspace environment console =
      Outcome.ofPrintouts [printText console ((RunFailure.load failure).text console)]
        Outcome.misused := by
  rw [run_of_load failed]
  unfold Outcome.ofFailure
  rw [LoadFailure.isPrinted_of_isConfigError known]
  rfl

/-- An error of the settings breaks a check off if and only if its line cannot be printed. -/
theorem run_eq_error_iff_of_isConfigError (failed : Settings.load workspace request.settings
    (some environment) = .error failure) (known : failure.isConfigError = true)
    {cause : Breakdown} :
    request.run workspace environment console = .error cause ↔ ∃ broken, cause = .markup broken ∧
      printText console ((RunFailure.load failure).text console) = .error broken := by
  rw [run_of_isConfigError failed known]
  unfold Outcome.ofPrintouts
  cases printText console ((RunFailure.load failure).text console) with
  | error broken =>
    constructor
    · intro same
      cases same
      exact ⟨broken, rfl, rfl⟩
    · rintro ⟨other, rfl, same⟩
      cases same
      rfl
  | ok text =>
    constructor
    · intro same
      cases same
    · rintro ⟨other, -, same⟩
      cases same

/-- The line of an error that the console shows as it is ends the check. -/
theorem run_of_isShowable (failed : Settings.load workspace request.settings
    (some environment) = .error failure) (showable : failure.IsShowable console) :
    request.run workspace environment console =
      .ok ⟨String.ofList (ended [[], failure.line console]), Outcome.misused⟩ := by
  rw [run_of_isConfigError failed showable.known]
  exact ofPrintouts_of_prints (LoadFailure.prints_text showable) _

end CheckRequest

/-- A load of a settings file that spells a text gives settings or ends with an error of the settings
if and only if the text breaks the rules of YAML or holds something harmless. Every other file, such as
one with a scalar that stands for nothing, makes it end with a failure for which callers are not
prepared. A check that cannot load its settings ends with the exit status for misuse if it ends at all.
An error of the settings is printed, and breaks the check off only if the console cannot print its
line; a failure that is not printed breaks every check off. -/
theorem load_ends_well_iff_harmless {workspace : Workspace} {path : Option Path}
    {environment : Option Environment} {own : Path} {bytes : List UInt8} {text : List Char}
    {full : Environment} (file : Settings.settingsFile? workspace path = some (own, bytes))
    (spelled : fileText bytes = .ok text)
    (set : Settings.variablesOf workspace environment = .ok full) :
    (((∃ settings, Settings.load workspace path environment = .ok settings) ∨
        ∃ failure, Settings.load workspace path environment = .error failure ∧
          failure.isConfigError = true) ↔
      (∀ failure, Yaml.Data.ofText? text = .error failure →
        ∃ rejection, failure = .text (.rejected rejection)) ∧
      ∀ data, Yaml.Data.ofText? text = .ok data →
        (SettingsFile.Content.ofData data).IsHarmless full) ∧
    ∀ (request : CheckRequest) (known : Environment) (console : Console) (failure : LoadFailure),
      request.settings = path → environment = some known →
      Settings.load workspace path environment = .error failure →
      (∀ outcome, request.run workspace known console = .ok outcome →
        outcome.status = Outcome.misused) ∧
      (failure.isConfigError = true → ∀ cause,
        request.run workspace known console = .error cause ↔ ∃ broken, cause = .markup broken ∧
          printText console ((RunFailure.load failure).text console) = .error broken) ∧
      (failure.IsShowable console → request.run workspace known console =
        .ok ⟨String.ofList (ended [[], failure.line console]), Outcome.misused⟩) ∧
      ((RunFailure.load failure).isPrinted = false →
        request.run workspace known console = .error (.failure (.load failure))) := by
  refine ⟨Iff.trans ?_ (Settings.endsWell_load_iff file spelled set), ?_⟩
  · cases Settings.load workspace path environment with
    | ok settings => exact iff_of_true (.inl ⟨settings, rfl⟩) (endsWell_ok settings)
    | error failure =>
      refine ⟨?_, fun ends => .inr ⟨failure, rfl, ends failure rfl⟩⟩
      rintro (⟨settings, same⟩ | ⟨other, same, known⟩)
      · cases same
      · intro own first
        cases same
        cases first
        exact known
  · rintro request known console failure rfl rfl failed
    exact ⟨fun outcome => CheckRequest.status_of_load failed,
      fun known cause => CheckRequest.run_eq_error_iff_of_isConfigError failed known,
      CheckRequest.run_of_isShowable failed, CheckRequest.run_of_unprinted failed⟩

/-- A directory with a settings file, an ASCII text. -/
def settingsWorkspace (text : String) : Workspace :=
  ⟨.directory [("llmtxt-check.yaml", .file (asciiBytes text.toList))], []⟩

/-- A number in the place of a list of languages or in that list, a number in the place of a name, and
a month that there is not end a load with failures that are no errors of the settings. The first one
breaks a check off. -/
theorem slips_break_loads_off :
    Settings.load (settingsWorkspace "accepted_languages: 5\n") none (some []) =
        .error (.refused (.notList .integer)) ∧
      Settings.load (settingsWorkspace "accepted_languages: [5]\n") none (some []) =
        .error (.refused (.notText .integer)) ∧
      Settings.load (settingsWorkspace "1: x\n") none (some []) = .error (.nameless .integer) ∧
      Settings.load (settingsWorkspace "strict_order: 2023-13-45\n") none (some []) =
        .error (.badData (.scalar (.timestamp .month))) ∧
      ([.refused (.notList .integer), .refused (.notText .integer), .nameless .integer,
        .badData (.scalar (.timestamp .month))] : List LoadFailure).all (fun failure =>
          !failure.isConfigError) = true ∧
      runCommandLine ["check", "llm.txt"] (settingsWorkspace "accepted_languages: 5\n") [] =
        .error (.failure (.load (.refused (.notList .integer)))) := by
  have failed : Settings.load (settingsWorkspace "accepted_languages: 5\n") none (some []) =
      .error (.refused (.notList .integer)) := by decide +kernel
  have asked : Command.ofArguments ["check", "llm.txt"] =
      .ok (.check (CheckRequest.ofSingle .text)) := rfl
  refine ⟨failed, by decide +kernel, by decide +kernel, by decide +kernel, rfl, ?_⟩
  unfold runCommandLine runCommandLineOn
  rw [asked]
  dsimp only [Command.run]
  exact CheckRequest.run_of_unprinted failed rfl

/-- The error about an unknown setting. -/
def unknownColour : LoadFailure :=
  .unknownSettings "/llmtxt-check.yaml" ["colour"]

theorem isShowable_unknownColour : unknownColour.IsShowable .wide where
  known := rfl
  unchanged := IsPlain.isUnchanged ⟨holdsNoTag_of_notMem (by decide), by decide +kernel⟩
    (by decide +kernel)
  ends := isBlank_getLast?_of_all (by decide)
  noEscape := by decide
  fits := by decide +kernel

theorem load_ends_well_iff_harmless_of_unknown :
    Settings.load (settingsWorkspace "colour: red\n") none (some []) = .error unknownColour ∧
      (∀ data, Yaml.Data.ofText? "colour: red\n".toList = .ok data →
        (SettingsFile.Content.ofData data).IsHarmless []) ∧
      (CheckRequest.ofSingle .text).run (settingsWorkspace "colour: red\n") [] .wide =
        .ok ⟨"\n❌ Error: /llmtxt-check.yaml: unknown setting(s): colour\n", 2⟩ := by
  have failed : Settings.load (settingsWorkspace "colour: red\n") none (some []) =
      .error unknownColour := by decide +kernel
  have file : Settings.settingsFile? (settingsWorkspace "colour: red\n") none =
      some (⟨.root, ["llmtxt-check.yaml"]⟩, asciiBytes "colour: red\n".toList) := by
    decide +kernel
  have set : Settings.variablesOf (settingsWorkspace "colour: red\n") (some []) = .ok [] := by
    decide +kernel
  have printed : String.ofList (ended [[], unknownColour.line .wide]) =
      "\n❌ Error: /llmtxt-check.yaml: unknown setting(s): colour\n" := by decide +kernel
  obtain ⟨harmless, ends⟩ := load_ends_well_iff_harmless file (fileText_asciiBytes (by decide)) set
  obtain ⟨-, -, shown, -⟩ := ends (CheckRequest.ofSingle .text) [] .wide unknownColour rfl rfl failed
  refine ⟨failed, (harmless.mp (.inr ⟨_, failed, rfl⟩)).2, ?_⟩
  rw [shown isShowable_unknownColour, printed]
  rfl

end LlmTxt

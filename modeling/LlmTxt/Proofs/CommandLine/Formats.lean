/-
This file compares the two forms in which a check prints its reports. The reports do not hang on the
form or the console, and neither does the way in which a check ends that has none hang on the form.
With reports the exit status is the same in both forms, but a check may break off. What a document
says is printed for a reader among the markup, and may itself be markup that cannot be read; and it
may hold a surrogate, which cannot be encoded in either form. Where the console shows the sources and
messages as they are, every report is there in its order with a line for each diagnostic.
-/

import LlmTxt.CommandLine
import LlmTxt.Proofs.Batch.Scheduling
import LlmTxt.Proofs.Document.Places
import LlmTxt.Proofs.Report.Printing
import LlmTxt.Proofs.Settings.Allowing
import LlmTxt.Proofs.Steps
import LlmTxt.Proofs.Text.Encoding
import LlmTxt.Proofs.Validation.Grading

namespace LlmTxt

open Terminal Text

/-! ### Reports on the screen -/

namespace Report

variable {console : Console}

/-- All reports are shown in their order, if the console can show each of them. -/
theorem exists_prints_all (room : 0 < console.width) {reports : List Report}
    (printable : ∀ report ∈ reports, report.IsPrintable console)
    (known : ∀ report ∈ reports, ∀ diagnostic ∈ report.diagnostics,
      ∃ code : Code, diagnostic.code = code.name) :
    ∃ blocks, List.Forall₂ IsShownBy reports blocks ∧
      Prints (reports.flatMap (·.printouts console)) blocks.flatten := by
  induction reports with
  | nil => exact ⟨[], .nil, .nil⟩
  | cons report rest inductionHypothesis =>
    obtain ⟨own, others⟩ := List.forall_mem_cons.mp printable
    obtain ⟨ownKnown, othersKnown⟩ := List.forall_mem_cons.mp known
    obtain ⟨lines, shown, prints⟩ := exists_prints own ownKnown room
    obtain ⟨blocks, allShown, allPrints⟩ := inductionHypothesis others othersKnown
    refine ⟨lines :: blocks, .cons shown allShown, ?_⟩
    rw [List.flatMap_cons, List.flatten_cons]
    exact prints.append allPrints

theorem isWhole_countLines (reports : List Report) :
    ∀ line ∈ countLines reports, IsWhole line.toList := by
  have number (count : Nat) : IsWhole (toString count).toList :=
    (isUnchanged_of_isSimple (isSimple_toString count)).1.whole
  have words : ∀ word ∈ ["📊 ", "/", " documents passed", "Errors: ", "  Warnings: ", "  Infos: "],
      IsWhole word.toList := by
    decide
  simp only [List.forall_mem_cons, List.not_mem_nil, false_imp_iff, implies_true, and_true] at words
  simp only [countLines, List.forall_mem_cons, List.not_mem_nil, false_imp_iff, implies_true,
    and_true, String.toList_append, isWhole_append, number, words]

/-- The lines below all reports: two empty ones, and the counts in a frame. -/
def footer (console : Console) (reports : List Report) : List (List Char) :=
  [] :: [] :: panelLines console.width ((countLines reports).map String.toList)

theorem prints_summary (room : 0 < console.width) (reports : List Report) :
    Prints (summary reports console) (footer console reports) := by
  have feed : Markup.IsPlain ['\n'] := isPlain_of_notMem (by decide) (by decide)
  have feeds : printText console "\n" = .ok (ended [[], []]) :=
    printText_of_shows room feed.shows ⟨nofun, nofun, nofun⟩ nofun nofun (Nat.zero_le _)
  have panel := Prints.nil.cons (printPanel_of_isWhole room (isWhole_countLines reports))
  rw [List.append_nil] at panel
  exact panel.cons feeds

/-- What is printed below all reports is never broken. -/
theorem exists_showAll_summary (console : Console) (reports : List Report) :
    ∃ shown, showAll (summary reports console) = .ok shown := by
  by_cases none : console.width = 0
  · have feed : Markup.IsPlain ['\n'] := isPlain_of_notMem (by decide) (by decide)
    obtain ⟨marked, read, -⟩ := feed.shows.read (List.forall_mem_singleton.mpr rfl) console
    have feeds : printText console "\n" = .ok [] := by
      unfold printText
      rw [show "\n".toList = ['\n'] from rfl, read]
      exact if_pos none
    exact ⟨[], by rw [summary, feeds, printPanel, written_of_width_eq_zero none]; rfl⟩
  · exact ⟨_, prints_summary (Nat.pos_of_ne_zero none) reports⟩

end Report

/-! ### How a check ends -/

namespace CheckRequest

variable {request : CheckRequest} {workspace : Workspace} {environment : Environment}
  {console : Console} {reports : List Report}

/-- The exit status of a check with reports: zero if and only if every document passes. -/
def statusOf (reports : List Report) : Nat :=
  if reports.all Report.ok then Outcome.passed else Outcome.failed

/-- The reports do not hang on the form in which they are printed. -/
theorem reports_format (request : CheckRequest) (format : OutputFormat) (workspace : Workspace)
    (environment : Environment) :
    ({ request with format } : CheckRequest).reports workspace environment =
      request.reports workspace environment :=
  rfl

/-- Something is found out from settings and documents, if both are found and there is a worker. -/
theorem reports_eq (request : CheckRequest) (workspace : Workspace) (environment : Environment) :
    request.reports workspace environment =
      ((Settings.load workspace request.settings (some environment)).mapError .load).bind
        fun loaded => ((loaded.withOverrides request.overrides).mapError .overrides).bind
          fun settings => (((DocumentSearch.ofNames [] []).discover workspace
            request.paths).mapError .discovery).bind fun documents =>
              if documents.isEmpty then .error .noDocuments
              else if request.workers < 1 then .error (.batch (.noWorkers request.workers))
              else (documents.mapM (readDocument workspace)).bind fun items =>
                (validateBatch items settings request.workers).mapError .batch := by
  unfold CheckRequest.reports
  cases Settings.load workspace request.settings (some environment) with
  | error failure => rfl
  | ok loaded =>
    cases laid : loaded.withOverrides request.overrides with
    | error refusal => simp [laid, bind, Except.bind, Except.mapError]
    | ok settings =>
      simp only [laid, bind, Except.bind, Except.mapError]
      cases found : (DocumentSearch.ofNames [] []).discover workspace request.paths with
      | error failure => rfl
      | ok documents =>
        split_ifs <;> rfl

/-- The reports of a check are those of a batch. -/
theorem exists_validateBatch (run : request.reports workspace environment = .ok reports) :
    ∃ items settings, 1 ≤ request.workers ∧
      validateBatch items settings request.workers = .ok reports := by
  rw [reports_eq] at run
  obtain ⟨loaded, -, run⟩ := exists_of_bind_eq_ok run
  obtain ⟨settings, -, run⟩ := exists_of_bind_eq_ok run
  obtain ⟨documents, -, run⟩ := exists_of_bind_eq_ok run
  split_ifs at run with none noWorkers
  obtain ⟨items, -, run⟩ := exists_of_bind_eq_ok run
  exact ⟨items, settings, by omega, eq_ok_of_mapError run⟩

/-- Every report of a check is one on a document. -/
theorem exists_validate (run : request.reports workspace environment = .ok reports)
    {report : Report} (member : report ∈ reports) :
    ∃ text settings source, validate text settings source = .ok report := by
  obtain ⟨items, settings, positive, batch⟩ := exists_validateBatch run
  obtain ⟨item, -, checked⟩ := exists_of_mem_mapM
    (mapM_eq_ok_iff.mpr ((validateBatch_eq_ok_iff positive).mp batch)) member
  exact ⟨_, _, _, BatchItem.validate_eq_ok_iff.mp checked⟩

theorem exists_code (run : request.reports workspace environment = .ok reports) :
    ∀ report ∈ reports, ∀ diagnostic ∈ report.diagnostics,
      ∃ code : Code, diagnostic.code = code.name := by
  intro report member diagnostic inReport
  obtain ⟨text, settings, source, checked⟩ := exists_validate run member
  obtain ⟨code, -, own, -⟩ := isGraded_of_mem_diagnostics checked inReport
  exact ⟨code, own⟩

/-- A check ends with zero if and only if no error is counted below its reports. -/
theorem statusOf_eq_passed_iff (run : request.reports workspace environment = .ok reports) :
    statusOf reports = Outcome.passed ↔ Report.total reports .error = 0 := by
  have each : ∀ report ∈ reports, (report.ok = true ↔ report.count .error = 0) := by
    intro report member
    obtain ⟨text, settings, source, checked⟩ := exists_validate run member
    exact ok_iff_count_eq_zero checked
  have passes : statusOf reports = Outcome.passed ↔ ∀ report ∈ reports, report.ok = true := by
    rw [statusOf, ite_eq_left_iff, List.all_eq_true]
    exact ⟨fun ends => by_contra fun broken => absurd (ends broken) (by decide),
      fun all broken => absurd all broken⟩
  have none : Report.total reports .error = 0 ↔ ∀ report ∈ reports, report.count .error = 0 := by
    clear run each passes
    unfold Report.total
    induction reports with
    | nil => exact iff_of_true rfl nofun
    | cons report rest inductionHypothesis =>
      rw [List.foldr_cons, Nat.add_eq_zero_iff, inductionHypothesis, List.forall_mem_cons]
  rw [passes, none]
  exact forall₂_congr each

/-- What a check prints of its reports for a program. -/
def jsonOutput (reports : List Report) : String :=
  String.ofList ((Report.jsonOfAll reports).write 0 ++ ['\n'])

theorem run_json (run : request.reports workspace environment = .ok reports) :
    ({ request with format := .json } : CheckRequest).run workspace environment console =
      Outcome.ofPrintouts [console.written ((Report.jsonOfAll reports).write 0 ++ ['\n'])]
        (statusOf reports) := by
  unfold CheckRequest.run
  rw [reports_format, run]
  rfl

theorem run_text (run : request.reports workspace environment = .ok reports) :
    ({ request with format := .text } : CheckRequest).run workspace environment console =
      Outcome.ofPrintouts
        (reports.flatMap (·.printouts console) ++ Report.summary reports console)
        (statusOf reports) := by
  unfold CheckRequest.run
  rw [reports_format, run]
  rfl

theorem ofPrintouts_of_prints {printouts : List Printout} {lines : List (List Char)}
    (prints : Prints printouts lines) (status : Nat) :
    Outcome.ofPrintouts printouts status = .ok ⟨String.ofList (ended lines), status⟩ := by
  unfold Outcome.ofPrintouts
  rw [prints]
  rfl

theorem status_of_ofPrintouts {printouts : List Printout} {status : Nat} {outcome : Outcome}
    (ends : Outcome.ofPrintouts printouts status = .ok outcome) : outcome.status = status := by
  unfold Outcome.ofPrintouts at ends
  cases shown : showAll printouts with
  | error failure => rw [shown] at ends; cases ends
  | ok text => rw [shown] at ends; cases ends; rfl

theorem ofPrintouts_singleton (text : List Char) (status : Nat) :
    Outcome.ofPrintouts [.ok text] status = .ok ⟨String.ofList text, status⟩ := by
  have shown : showAll [.ok text] = .ok text := by
    rw [showAll_cons, showAll_nil]
    exact congrArg Except.ok (List.append_nil text)
  rw [Outcome.ofPrintouts, shown]
  rfl

/-- Printing breaks off if and only if something to print is broken. -/
theorem exists_ofPrintouts_eq_error_iff {printouts : List Printout} {status : Nat} :
    (∃ cause, Outcome.ofPrintouts printouts status = .error cause) ↔
      ∃ failure, .error failure ∈ printouts := by
  unfold Outcome.ofPrintouts
  constructor
  · rintro ⟨cause, broken⟩
    cases shown : showAll printouts with
    | error failure => exact ⟨failure, mem_of_showAll_eq_error shown⟩
    | ok text =>
      rw [shown] at broken
      cases broken
  · rintro ⟨failure, broken⟩
    obtain ⟨other, shown⟩ := exists_showAll_eq_error broken
    rw [shown]
    exact ⟨.markup other, rfl⟩

theorem exists_broken_printout_iff :
    (∃ failure, .error failure ∈ reports.flatMap (·.printouts console) ++
        Report.summary reports console) ↔
      ∃ report ∈ reports, ∃ failure, .error failure ∈ report.printouts console := by
  constructor
  · rintro ⟨failure, broken⟩
    rcases List.mem_append.mp broken with inReports | inSummary
    · obtain ⟨report, member, inReport⟩ := List.mem_flatMap.mp inReports
      exact ⟨report, member, failure, inReport⟩
    · obtain ⟨other, breaks⟩ := exists_showAll_eq_error inSummary
      obtain ⟨text, shown⟩ := Report.exists_showAll_summary console reports
      rw [shown] at breaks
      cases breaks
  · rintro ⟨report, member, failure, broken⟩
    exact ⟨failure, List.mem_append_left _ (List.mem_flatMap.mpr ⟨report, member, broken⟩)⟩

/-- What is printed of reports for a program is encoded if and only if none of their texts holds a
surrogate. -/
theorem encodes_json_iff :
    console.Encodes ((Report.jsonOfAll reports).write 0 ++ ['\n']) ↔
      ∀ report ∈ reports, ∀ text ∈ report.texts, console.Encodes text.toList := by
  have feed : console.Encodes ['\n'] := encodes_of_isWhole (by decide)
  rw [encodes_append, and_iff_left feed, Report.encodes_jsonOfAll_iff]

/-- A check ends with one exit status in both forms of its output, if it does not break off. The form
for a program breaks off if a text of a report holds a surrogate, and otherwise holds all reports. The
form for a reader breaks off if what it prints of a report holds broken markup or a surrogate. If the
console shows the sources and the messages of all reports as they are, the form for a reader holds
every report in its order, with a line for each of its diagnostics that shows its lines, its severity,
its code and its message. -/
theorem formats_agree (request : CheckRequest) (workspace : Workspace)
    (environment : Environment) (console : Console) :
    (∀ failure, request.reports workspace environment = .error failure → ∀ format,
      ({ request with format } : CheckRequest).run workspace environment console =
        Outcome.ofFailure failure console) ∧
    ∀ reports, request.reports workspace environment = .ok reports →
      (∀ format outcome, ({ request with format } : CheckRequest).run workspace environment console =
        .ok outcome → outcome.status = statusOf reports) ∧
      ((∃ cause, ({ request with format := .json } : CheckRequest).run workspace environment
          console = .error cause) ↔
        0 < console.width ∧
          ∃ report ∈ reports, ∃ text ∈ report.texts, ¬console.Encodes text.toList) ∧
      ((∀ report ∈ reports, ∀ text ∈ report.texts, console.Encodes text.toList) →
          0 < console.width →
        ({ request with format := .json } : CheckRequest).run workspace environment console =
          .ok ⟨jsonOutput reports, statusOf reports⟩) ∧
      ((∃ cause, ({ request with format := .text } : CheckRequest).run workspace environment
          console = .error cause) ↔
        ∃ report ∈ reports, ∃ failure, .error failure ∈ report.printouts console) ∧
      ((∀ report ∈ reports, report.IsPrintable console) → 0 < console.width →
        ∃ blocks, List.Forall₂ Report.IsShownBy reports blocks ∧
          ({ request with format := .text } : CheckRequest).run workspace environment console =
            .ok ⟨String.ofList (ended (blocks.flatten ++ Report.footer console reports)),
              statusOf reports⟩) := by
  refine ⟨fun failure broken format => ?_, fun reports run => ⟨?_, ?_, ?_, ?_, ?_⟩⟩
  · unfold CheckRequest.run
    rw [reports_format, broken]
  · intro format outcome ends
    cases format with
    | text =>
      rw [run_text run] at ends
      exact status_of_ofPrintouts ends
    | json =>
      rw [run_json run] at ends
      exact status_of_ofPrintouts ends
  · rw [run_json run, exists_ofPrintouts_eq_error_iff]
    simp only [List.mem_singleton, eq_comm (a := Except.error _), exists_written_eq_error_iff,
      encodes_json_iff, not_forall, exists_prop]
  · intro whole room
    rw [run_json run, written_of_encodes room (encodes_json_iff.mpr whole), ofPrintouts_singleton]
    rfl
  · rw [run_text run, exists_ofPrintouts_eq_error_iff, exists_broken_printout_iff]
  · intro printable room
    obtain ⟨blocks, shown, prints⟩ := Report.exists_prints_all room printable (exists_code run)
    refine ⟨blocks, shown, ?_⟩
    rw [run_text run]
    exact ofPrintouts_of_prints (prints.append (Report.prints_summary room reports)) _

/-! ### One document -/

/-- A file system with one document, an ASCII text. -/
def singleWorkspace (text : String) : Workspace :=
  ⟨.directory [("llm.txt", .file (asciiBytes text.toList))], []⟩

/-- A check of the one document. -/
def ofSingle (format : OutputFormat) : CheckRequest :=
  ⟨[⟨.current, ["llm.txt"]⟩], [], [], none, none, defaultWorkers, format⟩

/-- The one document is checked with the settings where nothing is set, as far as the languages and
the order go. -/
theorem exists_load_single (text : String) :
    ∃ allowed, Settings.load (singleWorkspace text) none (some []) =
      .ok ⟨Settings.defaultLanguages, allowed, true⟩ := by
  have given : Settings.givenByFile (singleWorkspace text) none = .ok ⟨none, none, none⟩ := rfl
  have full : Settings.fullEnvironment (singleWorkspace text) [] = .ok [] := rfl
  have layers : (Settings.ofLayers ⟨none, none, none⟩ []).toOption.map (fun settings =>
      (settings.acceptedLanguages, settings.strictOrder)) =
        some (Settings.defaultLanguages, true) := by
    decide +kernel
  unfold Settings.load
  rw [given]
  dsimp only [bind, Except.bind]
  rw [full]
  dsimp only
  cases run : Settings.ofLayers ⟨none, none, none⟩ [] with
  | error failure =>
    rw [run] at layers
    cases layers
  | ok loaded =>
    obtain ⟨languages, allowed, strict⟩ := loaded
    simp only [run, Except.toOption, Option.map_some, Option.some.injEq, Prod.mk.injEq] at layers
    obtain ⟨rfl, rfl⟩ := layers
    exact ⟨allowed, rfl⟩

/-- The check of one document comes to the report on that document. -/
theorem reports_single (format : OutputFormat) {text : String}
    (plain : (text.toList.all fun character => isAscii character && character != '\r') = true) :
    ∃ allowed, ∀ report,
      validate text ⟨Settings.defaultLanguages, allowed, true⟩ (some "/llm.txt") = .ok report →
      (ofSingle format).reports (singleWorkspace text) [] = .ok [report] := by
  obtain ⟨listed, load⟩ := exists_load_single text
  obtain ⟨allowed, laid⟩ : ∃ allowed,
      (⟨Settings.defaultLanguages, listed, true⟩ : Settings).withOverrides
          (ofSingle format).overrides =
        .ok ⟨Settings.defaultLanguages, allowed, true⟩ := ⟨_, rfl⟩
  have found : (DocumentSearch.ofNames [] []).discover (singleWorkspace text)
      (ofSingle format).paths = .ok [["llm.txt"]] := rfl
  have bytes : (singleWorkspace text).read? ⟨.root, ["llm.txt"]⟩ = some (asciiBytes text.toList) := rfl
  have path : (⟨.root, ["llm.txt"]⟩ : Path).text = "/llm.txt" := rfl
  have read : [["llm.txt"]].mapM (readDocument (singleWorkspace text)) =
      .ok [⟨"/llm.txt", text⟩] := by
    refine mapM_eq_ok_iff.mpr (.cons ?_ .nil)
    unfold readDocument
    dsimp only
    rw [bytes, Option.getD_some, fileText_asciiBytes plain, path]
    dsimp only [Except.map, Except.mapError]
    rw [String.ofList_toList]
  refine ⟨allowed, fun report checked => ?_⟩
  have batch : validateBatch [⟨"/llm.txt", text⟩] ⟨Settings.defaultLanguages, allowed, true⟩
      (ofSingle format).workers = .ok [report] :=
    (validateBatch_eq_ok_iff (by decide : 1 ≤ defaultWorkers)).mpr
      (.cons (BatchItem.validate_eq_ok_iff.mpr checked) .nil)
  rw [reports_eq, show (ofSingle format).settings = none from rfl, load]
  dsimp only [Except.mapError, Except.bind]
  rw [laid]
  dsimp only
  rw [found]
  dsimp only
  have some : ¬(ofSingle format).workers < 1 := by
    show ¬defaultWorkers < 1
    decide
  rw [if_neg (by decide), if_neg some, read]
  dsimp only
  rw [batch]

/-- The lines of a document that passes, with a section that is named like a tag that ends
another. -/
def closingTagLines : List Char :=
  ["---\n", "package: p\n", "version: 1.0.0\n", "language: python\n", "summary: s\n", "---\n",
    "## Index\n", "- **m**\n", "  - Functions: `f`\n", "## Module: m\n", "#### Function: f()\n",
    "## [/x]\n"].flatMap String.toList

/-- The document of those lines. -/
def closingTagText : String :=
  String.ofList closingTagLines

/-- The message about the section of that document. -/
def closingTagMessage : String :=
  "Section '" ++ "[/x]" ++
    "' is not part of the llm.txt vocabulary; its content is kept but not validated"

theorem lines_closingTagText :
    (Source.ofString closingTagText).lines = numberLines 1 0 (rawLines closingTagLines) := by
  have begins : closingTagText.toList.head? ≠ some '\uFEFF' := by
    rw [closingTagText, String.toList_ofList]
    decide
  rw [Source.lines, Source.ofString_characters begins, closingTagText, String.toList_ofList]

/-- Whatever names are allowed, that document passes, its section is reported, and no text of its
diagnostics holds a surrogate. -/
theorem exists_report_closingTag (allowed : List String) (source : Option String) :
    ∃ report, validate closingTagText ⟨Settings.defaultLanguages, allowed, true⟩ source =
        .ok report ∧
      report.source = source ∧ report.ok = true ∧
      (∃ diagnostic ∈ report.diagnostics, diagnostic.message = closingTagMessage) ∧
      ∀ diagnostic ∈ report.diagnostics, ∀ text ∈ diagnostic.texts, IsWhole text.toList := by
  have computed : ((Document.ofLines
      (numberLines 1 0 (rawLines closingTagLines))).toOption.bind fun read =>
        read.toOption.bind fun document =>
          (document.findings ⟨Settings.defaultLanguages, [], true⟩).toOption.map fun findings =>
            (document.sections.all fun part => part.codeBlocks.isEmpty) &&
            !findings.stages.flatten.any Diagnostic.isError &&
            (findings.stages.flatten.any fun diagnostic =>
              diagnostic.message == closingTagMessage) &&
            findings.stages.flatten.all fun diagnostic =>
              diagnostic.texts.all fun text => IsWhole text.toList) =
      some true := by
    decide +kernel
  rw [← lines_closingTagText] at computed
  cases read : Document.ofLines (Source.ofString closingTagText).lines with
  | error failure =>
    rw [read] at computed
    cases computed
  | ok result =>
    rw [read] at computed
    cases result with
    | error defect => cases computed
    | ok document =>
      cases found : document.findings ⟨Settings.defaultLanguages, [], true⟩ with
      | error failure => simp [Except.toOption, found] at computed
      | ok findings =>
        simp only [Except.toOption, found, Option.bind_some, Option.map_some, Option.some.injEq,
          Bool.and_eq_true, Bool.not_eq_true', List.any_eq_true, List.all_eq_true,
          List.isEmpty_iff, beq_iff_eq, decide_eq_true_eq] at computed
        obtain ⟨⟨⟨bare, harmless⟩, diagnostic, member, message⟩, whole⟩ := computed
        refine ⟨.ofFindings findings source, ?_, rfl, ?_,
          ⟨diagnostic, findings.merged_perm.mem_iff.mpr member, message⟩,
          fun other reported => whole other (findings.merged_perm.mem_iff.mp reported)⟩
        · unfold validate
          rw [Document.ofText_of_document read]
          dsimp only
          rw [document.findings_of_noCode bare ⟨_, [], _⟩ allowed, found]
        · rw [Report.ofFindings, findings.merged_perm.any_eq, harmless]
          rfl

theorem exists_read_closingTagMessage_eq_error (console : Console) :
    ∃ failure, Markup.read console closingTagMessage.toList = .error failure := by
  have split : closingTagMessage.toList = "Section '".toList ++ ('[' :: ('/' :: ['x']) ++ ']' ::
      "' is not part of the llm.txt vocabulary; its content is kept but not validated".toList) := by
    rw [closingTagMessage, String.toList_append, String.toList_append, List.append_assoc]
    rfl
  have before : Markup.IsPlain "Section '".toList := isPlain_of_notMem (by decide) (by decide)
  rw [split]
  exact Markup.exists_read_eq_error before.noTag (by decide) (by simp) _ console

/-- A document that passes and breaks off the form for a reader. -/
theorem closing_tag_breaks_text_off :
    ∃ output cause,
      runCommandLine ["check", "llm.txt", "--format", "json"] (singleWorkspace closingTagText) [] =
        .ok ⟨output, 0⟩ ∧
      runCommandLine ["check", "llm.txt"] (singleWorkspace closingTagText) [] = .error cause := by
  have asJson : Command.ofArguments ["check", "llm.txt", "--format", "json"] =
      .ok (.check { ofSingle .text with format := .json }) := rfl
  have asText : Command.ofArguments ["check", "llm.txt"] =
      .ok (.check { ofSingle .text with format := .text }) := rfl
  have plain : (closingTagText.toList.all fun character =>
      isAscii character && character != '\r') = true := by
    rw [closingTagText, String.toList_ofList]
    decide
  obtain ⟨allowed, single⟩ := reports_single .text plain
  obtain ⟨report, checked, named, passes, ⟨diagnostic, reported, message⟩, whole⟩ :=
    exists_report_closingTag allowed (some "/llm.txt")
  have run := single report checked
  obtain ⟨failure, broken⟩ := exists_read_closingTagMessage_eq_error .wide
  obtain ⟨other, printout⟩ :=
    Report.exists_broken_printout (by decide) reported (message ▸ broken)
  obtain ⟨cause, ends⟩ := exists_ofPrintouts_eq_error_iff.mpr (exists_broken_printout_iff.mpr
    ⟨report, List.mem_singleton_self report, other, printout⟩)
  refine ⟨jsonOutput [report], cause, ?_, ?_⟩
  · unfold runCommandLine runCommandLineOn
    rw [asJson]
    dsimp only [Command.run]
    have path : ∀ text ∈ (some "/llm.txt").toList, IsWhole text.toList := by decide
    have encoded : ∀ text ∈ report.texts, Console.wide.Encodes text.toList := by
      rw [Report.texts, named, List.forall_mem_append, List.forall_mem_flatMap]
      exact ⟨fun text member => encodes_of_isWhole (path text member),
        fun diagnostic member text inTexts =>
          encodes_of_isWhole (whole diagnostic member text inTexts)⟩
    rw [run_json run, written_of_encodes (by decide)
      (encodes_json_iff.mpr (List.forall_mem_singleton.mpr encoded)), ofPrintouts_singleton]
    simp [statusOf, passes, Outcome.passed, jsonOutput]
  · unfold runCommandLine runCommandLineOn
    rw [asText]
    dsimp only [Command.run]
    rw [run_text run]
    exact ends

/-- A document with a code block that nothing closes. -/
def unclosedCodeText : String :=
  "## Index\n~~~\n"

/-- The report on that document. -/
def unclosedCodeReport : Report :=
  .ofFatal (FatalDefect.unclosedCode 2 9 2 (some .index)).diagnostic (some "/llm.txt")

theorem isPrintable_unclosedCodeReport : unclosedCodeReport.IsPrintable .wide := by
  have source : IsUnchanged "/llm.txt".toList :=
    (isUnchanged_of_isSimple (by decide)).1
  refine ⟨source, by decide, by decide +kernel, ?_, ?_⟩
  · intro diagnostic member
    rw [List.mem_singleton.mp member]
    exact ⟨isUnchanged_of_isOrdinary (by decide +kernel),
      isBlank_getLast?_of_all (by decide +kernel)⟩
  · unfold Table.FitsIn
    decide

theorem formats_agree_of_unclosed_code :
    (ofSingle .text).reports (singleWorkspace unclosedCodeText) [] = .ok [unclosedCodeReport] ∧
      unclosedCodeReport.IsPrintable .wide ∧
      (∀ text ∈ unclosedCodeReport.texts, Console.wide.Encodes text.toList) ∧
      (ofSingle .json).run (singleWorkspace unclosedCodeText) [] .wide =
        .ok ⟨jsonOutput [unclosedCodeReport], 1⟩ ∧
      ∃ blocks, List.Forall₂ Report.IsShownBy [unclosedCodeReport] blocks ∧
        (ofSingle .text).run (singleWorkspace unclosedCodeText) [] .wide = .ok
          ⟨String.ofList (ended (blocks.flatten ++ Report.footer .wide [unclosedCodeReport])),
            1⟩ := by
  obtain ⟨allowed, single⟩ := reports_single .text (by decide :
    (unclosedCodeText.toList.all fun character => isAscii character && character != '\r') = true)
  have run : (ofSingle .text).reports (singleWorkspace unclosedCodeText) [] =
      .ok [unclosedCodeReport] :=
    single unclosedCodeReport rfl
  have whole : ∀ text ∈ unclosedCodeReport.texts, Console.wide.Encodes text.toList :=
    encodes_names .wide (by decide +kernel)
  obtain ⟨-, ends⟩ := formats_agree (ofSingle .text) (singleWorkspace unclosedCodeText) [] .wide
  obtain ⟨-, -, asJson, -, asText⟩ := ends _ run
  exact ⟨run, isPrintable_unclosedCodeReport, whole,
    asJson (List.forall_mem_singleton.mpr whole) (by decide),
    asText (List.forall_mem_singleton.mpr isPrintable_unclosedCodeReport) (by decide)⟩

end CheckRequest

end LlmTxt

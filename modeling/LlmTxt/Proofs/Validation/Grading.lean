/-
This file compares the severities that the checks choose with those that the catalog promises.
Every check says on its own how grave its diagnostics are, and the shape of a section is graded by
how strongly a document is held to have it. The choices agree with the catalog in all codes but two:
a section out of order is a mere remark where the order is not strict, and an Index that appears
again is an error.

The two codes of fatal defects are kept for fatal reports, which hold nothing else.
-/

import LlmTxt.Proofs.Validation.Stages

namespace LlmTxt

/-! ### What the catalog promises -/

namespace Code

theorem mem_all (code : Code) : code ∈ all := by
  cases code <;> decide

/-- How grave a diagnostic under a code is that concerns some kind of section: as the catalog says,
but for the order of sections and for an Index that appears again. -/
def severityIn (strict : Bool) (kind? : Option SectionKind) : Code → Severity
  | sectionOutOfOrder => if strict then sectionOutOfOrder.severity else .info
  | duplicateSection => if kind? = some .index then .error else duplicateSection.severity
  | code => code.severity

/-- Where neither exception applies, the catalog has the word. -/
theorem severityIn_of_ne (strict : Bool) (kind? : Option SectionKind) {code : Code}
    (ordered : code ≠ .sectionOutOfOrder) (single : code ≠ .duplicateSection) :
    code.severityIn strict kind? = code.severity := by
  unfold severityIn
  split
  · contradiction
  · contradiction
  · rfl

/-- The codes of the defects that end a check. -/
def ofFatal : List Code :=
  [.malformedFrontmatter, .unterminatedCodeBlock]

end Code

/-- Whether a diagnostic is reported under a code of the catalog, and as grave as that is. -/
def Diagnostic.IsGraded (strict : Bool) (diagnostic : Diagnostic) : Prop :=
  ∃ code ∈ Code.all, diagnostic.code = code.name ∧
    diagnostic.severity = code.severityIn strict diagnostic.kind?

/-- A diagnostic is graded if its code is none of the two exceptions and its severity is that of the
catalog. -/
theorem Diagnostic.isGraded_of_severity {strict : Bool} {diagnostic : Diagnostic} (code : Code)
    (own : diagnostic.code = code.name) (severity : diagnostic.severity = code.severity)
    (ordered : code ≠ .sectionOutOfOrder) (single : code ≠ .duplicateSection) :
    diagnostic.IsGraded strict :=
  ⟨code, code.mem_all, own, severity.trans (Code.severityIn_of_ne _ _ ordered single).symm⟩

/-! ### What the checks choose -/

theorem Frontmatter.Defect.severity_eq (defect : Frontmatter.Defect) :
    defect.severity = defect.code.severity := by
  cases defect <;> rfl

theorem Mismatch.severity_eq (mismatch : Mismatch) :
    mismatch.severity = mismatch.code.severity := by
  cases mismatch <;> rfl

theorem FatalDefect.severity_eq (defect : FatalDefect) :
    defect.diagnostic.severity = defect.code.severity := by
  cases defect <;> rfl

namespace Section

/-- A defect is looked for only in sections of the kinds whose standing gives it the severity of the
catalog. -/
theorem ShapeDefect.severity_eq {part : Section} {defect : ShapeDefect}
    (member : defect ∈ part.shapeDefects) : defect.severity part = defect.code.severity := by
  have standing (kind : SectionKind) (own : part.kind = kind) :
      shapeSeverity part.kind = if kind.status = .required then .error else .warning := by
    rw [own]
    rfl
  unfold shapeDefects at member
  cases kind : part.kind <;> simp only [kind] at member
  case frontmatter => cases member
  case moduleSections => cases member
  case index =>
    obtain ⟨problem, _, rfl⟩ := List.mem_map.mp member
    exact standing _ kind
  case moduleSection =>
    rcases List.mem_append.mp member with ofName | ofObjects
    · unfold nameDefects at ofName
      dsimp only at ofName
      split_ifs at ofName
      · rw [List.mem_singleton.mp ofName]
        exact standing _ kind
      · cases ofName
      · rw [List.mem_singleton.mp ofName]
        exact standing _ kind
    · unfold objectDefects at ofObjects
      split_ifs at ofObjects
      · cases ofObjects
      · rw [List.mem_singleton.mp ofObjects]
        exact standing _ kind
  case unknown =>
    rw [List.mem_singleton.mp member]
    rfl
  case globalExamples =>
    split_ifs at member
    · rw [List.mem_singleton.mp member]
      exact standing _ kind
    · cases member
  -- The two kinds of prose are looked at in one way.
  all_goals
    split_ifs at member
    · cases member
    · rw [List.mem_singleton.mp member]
      exact standing _ kind

theorem isGraded_of_mem_checkShape {strict : Bool} {part : Section} {diagnostic : Diagnostic}
    (member : diagnostic ∈ part.checkShape) : diagnostic.IsGraded strict := by
  obtain ⟨defect, inPart, rfl⟩ := List.mem_map.mp member
  refine Diagnostic.isGraded_of_severity defect.code rfl (ShapeDefect.severity_eq inPart) ?_ ?_
  all_goals cases defect <;> nofun

theorem isGraded_of_mem_checkOrder {strict : Bool} {sections : List Section}
    {diagnostic : Diagnostic} (member : diagnostic ∈ checkOrder strict sections) :
    diagnostic.IsGraded strict := by
  obtain ⟨pair, _, rfl⟩ := List.mem_map.mp member
  exact ⟨.sectionOutOfOrder, Code.mem_all _, rfl, rfl⟩

theorem isGraded_of_mem_checkRepetition {strict : Bool} {sections : List Section}
    {diagnostic : Diagnostic} (member : diagnostic ∈ checkRepetition sections) :
    diagnostic.IsGraded strict := by
  obtain ⟨entry, _, rfl⟩ := List.mem_map.mp member
  refine ⟨.duplicateSection, Code.mem_all _, rfl, ?_⟩
  simp only [repetitionDiagnostic, Diagnostic.ofCode, Code.severityIn, Option.some.injEq]
  rfl

end Section

/-! ### The stages -/

theorem Frontmatter.isGraded_of_mem_check {strict : Bool} {frontmatter : Option Frontmatter}
    {accepted : List String} {diagnostic : Diagnostic}
    (member : diagnostic ∈ check frontmatter accepted) : diagnostic.IsGraded strict := by
  obtain ⟨defect, _, rfl⟩ := mem_check.mp member
  refine Diagnostic.isGraded_of_severity defect.code rfl defect.severity_eq ?_ ?_
  all_goals cases defect <;> nofun

theorem SymbolTable.isGraded_of_mem_resolve {strict : Bool} {index sections : SymbolTable}
    {diagnostic : Diagnostic} (member : diagnostic ∈ index.resolve sections) :
    diagnostic.IsGraded strict := by
  obtain ⟨mismatch, _, rfl⟩ := List.mem_map.mp member
  refine Diagnostic.isGraded_of_severity mismatch.code rfl mismatch.severity_eq ?_ ?_
  all_goals cases mismatch <;> nofun

namespace Document

theorem isGraded_of_mem_checkPresence {strict : Bool} {document : Document}
    {diagnostic : Diagnostic} (member : diagnostic ∈ document.checkPresence) :
    diagnostic.IsGraded strict := by
  unfold checkPresence at member
  simp only [List.mem_append] at member
  rcases member with (index | modules) | recommended
  · split_ifs at index
    · rw [List.mem_singleton.mp index]
      exact Diagnostic.isGraded_of_severity .missingSection rfl rfl nofun nofun
    · cases index
  · split_ifs at modules
    · rw [List.mem_singleton.mp modules]
      exact Diagnostic.isGraded_of_severity .missingSection rfl rfl nofun nofun
    · cases modules
  · obtain ⟨kind, _, rfl⟩ := List.mem_map.mp recommended
    exact Diagnostic.isGraded_of_severity .missingRecommendedSection rfl rfl nofun nofun

theorem isGraded_of_mem_checkSections {document : Document} {strict : Bool}
    {diagnostic : Diagnostic} (member : diagnostic ∈ document.checkSections strict) :
    diagnostic.IsGraded strict := by
  unfold checkSections at member
  simp only [List.mem_append] at member
  rcases member with ((presence | order) | repetition) | shape
  · exact isGraded_of_mem_checkPresence presence
  · exact Section.isGraded_of_mem_checkOrder order
  · exact Section.isGraded_of_mem_checkRepetition repetition
  · obtain ⟨part, _, inPart⟩ := List.mem_flatMap.mp shape
    exact Section.isGraded_of_mem_checkShape inPart

theorem isGraded_of_mem_checkDeclarations {strict : Bool} {document : Document}
    {declarations : List Diagnostic} (run : document.checkDeclarations = .ok declarations)
    {diagnostic : Diagnostic} (member : diagnostic ∈ declarations) :
    diagnostic.IsGraded strict := by
  rw [checkDeclarations_eq] at run
  cases contentsRun : document.moduleContents with
  | error failure => simp [contentsRun, Except.map] at run
  | ok contents =>
    simp only [contentsRun, Except.map, Except.ok.injEq] at run
    rw [← run] at member
    obtain ⟨content, _, inContent⟩ := List.mem_flatMap.mp member
    obtain ⟨declaration, _, rfl⟩ := List.mem_map.mp inContent
    exact Diagnostic.isGraded_of_severity .unrecognizedObjectHeader rfl rfl nofun nofun

theorem isGraded_of_mem_checkReferences {strict : Bool} {document : Document}
    {index sections : SymbolTable} {allowed : List String} {diagnostic : Diagnostic}
    (member : diagnostic ∈ document.checkReferences index sections allowed) :
    diagnostic.IsGraded strict := by
  obtain ⟨reference, _, rfl⟩ := List.mem_map.mp member
  exact Diagnostic.isGraded_of_severity .unknownSymbolReference rfl rfl nofun nofun

section Stages

variable {document : Document} {settings : Settings} {sections : SymbolTable}
  {declarations stage : List Diagnostic} {diagnostic : Diagnostic}
  (run : document.checkDeclarations = .ok declarations)
  (stageMember : stage ∈ document.stages settings sections declarations)
  (member : diagnostic ∈ stage)

include run stageMember member

theorem isGraded_of_mem_stages : diagnostic.IsGraded settings.strictOrder := by
  simp only [stages, List.mem_cons, List.not_mem_nil, or_false] at stageMember
  rcases stageMember with rfl | rfl | rfl | rfl | rfl
  · exact Frontmatter.isGraded_of_mem_check member
  · exact isGraded_of_mem_checkSections member
  · exact isGraded_of_mem_checkDeclarations run member
  · exact SymbolTable.isGraded_of_mem_resolve member
  · exact isGraded_of_mem_checkReferences member

/-- No stage reports what only the reading of the document can find. -/
theorem code_ne_of_mem_stages {code : Code} (fatal : code ∈ Code.ofFatal) :
    diagnostic.code ≠ code.name := by
  simp only [stages, List.mem_cons, List.not_mem_nil, or_false] at stageMember
  rcases stageMember with rfl | rfl | rfl | rfl | rfl
  · exact (Frontmatter.check_codes member).code_ne (by revert code; decide)
  · exact (checkSections_codes member).code_ne (by revert code; decide)
  · exact (checkDeclarations_codes run member).code_ne (by revert code; decide)
  · exact (SymbolTable.resolve_codes member).code_ne (by revert code; decide)
  · exact (checkReferences_codes member).code_ne (by revert code; decide)

end Stages

end Document

/-! ### The report -/

theorem FatalDefect.code_mem_ofFatal (defect : FatalDefect) : defect.code ∈ Code.ofFatal := by
  cases defect <;> simp [code, Code.ofFatal]

theorem FatalDefect.isGraded_diagnostic (strict : Bool) (defect : FatalDefect) :
    defect.diagnostic.IsGraded strict := by
  refine Diagnostic.isGraded_of_severity defect.code rfl defect.severity_eq ?_ ?_
  all_goals cases defect <;> nofun

/-- Every diagnostic of a report is graded. -/
theorem isGraded_of_mem_diagnostics {text : String} {settings : Settings}
    {source : Option String} {report : Report}
    (run : validate text settings source = .ok report) {diagnostic : Diagnostic}
    (member : diagnostic ∈ report.diagnostics) : diagnostic.IsGraded settings.strictOrder := by
  rcases validate_cases run with
    ⟨document, defect, _, rfl⟩ | ⟨document, sections, declarations, _, _, declared, rfl⟩
  · rw [List.mem_singleton.mp member]
    exact defect.isGraded_diagnostic _
  · obtain ⟨stage, inStages, inStage⟩ := Findings.mem_merged.mp member
    exact Document.isGraded_of_mem_stages declared inStages inStage

/-- The diagnostics of a report agree with the catalog. The codes of fatal defects make a report
that is fatal and holds nothing else, and no other report is fatal. A report is in order if and only
if it holds no error. -/
theorem report_agrees_with_catalog {text : String} {settings : Settings} {source : Option String}
    {report : Report} (run : validate text settings source = .ok report) :
    (∀ diagnostic ∈ report.diagnostics, diagnostic.IsGraded settings.strictOrder) ∧
      (∀ diagnostic ∈ report.diagnostics, ∀ code ∈ Code.ofFatal, diagnostic.code = code.name →
        report.fatal = true ∧ report.diagnostics = [diagnostic]) ∧
      (report.fatal = true →
        ∃ code ∈ Code.ofFatal, ∃ diagnostic, report.diagnostics = [diagnostic] ∧
          diagnostic.code = code.name) ∧
      (report.ok = true ↔ ∀ diagnostic ∈ report.diagnostics, diagnostic.severity ≠ .error) := by
  have outcome : report.ok = true ↔
      ∀ diagnostic ∈ report.diagnostics, diagnostic.severity ≠ .error := by
    simp [validate_outcome run, Diagnostic.isError]
  refine ⟨fun diagnostic => isGraded_of_mem_diagnostics run, ?_, ?_, outcome⟩
  all_goals rcases validate_cases run with
    ⟨document, defect, _, rfl⟩ | ⟨document, sections, declarations, _, _, declared, rfl⟩
  · intro diagnostic member _ _ _
    rw [List.mem_singleton.mp member]
    exact ⟨rfl, rfl⟩
  · intro diagnostic member code fatal same
    obtain ⟨stage, inStages, inStage⟩ := Findings.mem_merged.mp member
    exact absurd same (Document.code_ne_of_mem_stages declared inStages inStage fatal)
  · exact fun _ => ⟨defect.code, defect.code_mem_ofFatal, defect.diagnostic, rfl, rfl⟩
  · exact nofun

/-- A text with a second Index, and with a section behind one that it should come before. -/
def secondIndexText : String :=
  "## Index\n## Core Concepts\n## Index\n"

/-- Settings under which sections may come in any order. -/
def anyOrder : Settings :=
  { Settings.default with strictOrder := false }

theorem report_agrees_with_catalog_of_second_index :
    ∃ report, validate secondIndexText anyOrder none = .ok report ∧
      (report.diagnostics.any fun diagnostic =>
        diagnostic.code == "SectionOutOfOrder" && diagnostic.severity == .info) = true ∧
      (report.diagnostics.any fun diagnostic =>
        diagnostic.code == "DuplicateSection" && diagnostic.severity == .error) = true ∧
      (∀ diagnostic ∈ report.diagnostics, diagnostic.IsGraded false) ∧
      (∀ diagnostic ∈ report.diagnostics, ∀ code ∈ Code.ofFatal, diagnostic.code = code.name →
        report.fatal = true ∧ report.diagnostics = [diagnostic]) ∧
      (report.fatal = true →
        ∃ code ∈ Code.ofFatal, ∃ diagnostic, report.diagnostics = [diagnostic] ∧
          diagnostic.code = code.name) ∧
      (report.ok = true ↔ ∀ diagnostic ∈ report.diagnostics, diagnostic.severity ≠ .error) := by
  obtain ⟨findings, run, ordered, single⟩ : ∃ findings,
      validate secondIndexText anyOrder none = .ok (.ofFindings findings none) ∧
      (findings.stages.flatten.any fun diagnostic =>
        diagnostic.code == "SectionOutOfOrder" && diagnostic.severity == .info) = true ∧
      (findings.stages.flatten.any fun diagnostic =>
        diagnostic.code == "DuplicateSection" && diagnostic.severity == .error) = true :=
    ⟨_, rfl, by decide +kernel, by decide +kernel⟩
  refine ⟨_, run, ?_, ?_, report_agrees_with_catalog run⟩
  · exact (findings.merged_perm.any_eq).trans ordered
  · exact (findings.merged_perm.any_eq).trans single

end LlmTxt

/-
This file takes a check apart. A check that comes to a report has either met a fatal defect, and
then the report holds that alone, or it has gone through all stages, and then the report holds
what they have found. For each stage the file says which diagnostics it can make: what a
diagnostic is about can be read off its code, because no two codes have one name and every stage
has codes of its own.
-/

import LlmTxt.Proofs.Report.Sorting
import LlmTxt.Validation

namespace LlmTxt

/-! ### Codes -/

theorem Code.find?_name (code : Code) :
    Code.all.find? (fun other => other.name == code.name) = some code := by
  cases code <;> rfl

/-- No two codes have one name. -/
theorem Code.name_injective : Function.Injective Code.name := by
  intro first second equal
  have found := Code.find?_name first
  rw [equal, Code.find?_name second] at found
  exact (Option.some.inj found).symm

/-! ### What the stages find -/

namespace Document

/-- What the stages find, given what the module sections declare and which of their headings
follow no grammar. -/
def stages (document : Document) (settings : Settings) (sections : SymbolTable)
    (declarations : List Diagnostic) : List (List Diagnostic) :=
  [Frontmatter.check document.frontmatter settings.acceptedLanguages,
    document.checkSections settings.strictOrder,
    declarations,
    document.indexTable.resolve sections,
    document.checkReferences document.indexTable sections settings.allowed]

theorem findings_eq (document : Document) (settings : Settings) :
    document.findings settings =
      document.moduleTable.bind fun sections =>
        document.checkDeclarations.map fun declarations =>
          ⟨document.stages settings sections declarations⟩ := by
  unfold findings
  cases document.moduleTable with
  | error failure => rfl
  | ok sections =>
    cases document.checkDeclarations with
    | error failure => rfl
    | ok declarations => rfl

theorem checkDeclarations_eq (document : Document) :
    document.checkDeclarations = document.moduleContents.map fun contents =>
      contents.flatMap fun content =>
        (content.declarations.filter (·.header.isNone)).map (·.diagnostic content.module) := by
  unfold checkDeclarations
  cases document.moduleContents <;> rfl

theorem moduleTable_eq (document : Document) :
    document.moduleTable = document.moduleContents.map fun contents =>
      contents.foldl (fun table content =>
        table.add content.module content.span
          (content.declarations.map (·.symbol content.module))) (.empty .moduleSections) := by
  unfold moduleTable
  cases document.moduleContents <;> rfl

end Document

/-- A check comes to a report in two ways. -/
theorem validate_cases {text : String} {settings : Settings} {source : Option String}
    {report : Report} (run : validate text settings source = .ok report) :
    (∃ document defect, Document.ofText text = .ok (document, some defect) ∧
      report = .ofFatal defect.diagnostic source) ∨
    ∃ document sections declarations, Document.ofText text = .ok (document, none) ∧
      document.moduleTable = .ok sections ∧ document.checkDeclarations = .ok declarations ∧
      report = .ofFindings ⟨document.stages settings sections declarations⟩ source := by
  unfold validate at run
  split at run
  · cases run
  · rename_i document defect read
    cases run
    exact Or.inl ⟨document, defect, read, rfl⟩
  · rename_i document read
    rw [Document.findings_eq] at run
    cases tableRun : document.moduleTable with
    | error failure => simp [tableRun, Except.bind] at run
    | ok sections =>
      cases declarationsRun : document.checkDeclarations with
      | error failure => simp [tableRun, declarationsRun, Except.bind, Except.map] at run
      | ok declarations =>
        simp only [tableRun, declarationsRun, Except.bind, Except.map, Except.ok.injEq] at run
        exact Or.inr ⟨document, sections, declarations, read, tableRun, declarationsRun, run.symm⟩

/-- A document that has been read is checked in all stages. -/
theorem validate_of_read {text : String} {document : Document}
    (read : Document.ofText text = .ok (document, none)) {sections : SymbolTable}
    (tableRun : document.moduleTable = .ok sections) {declarations : List Diagnostic}
    (declarationsRun : document.checkDeclarations = .ok declarations) (settings : Settings)
    (source : Option String) :
    validate text settings source =
      .ok (.ofFindings ⟨document.stages settings sections declarations⟩ source) := by
  unfold validate
  rw [read]
  dsimp only
  rw [Document.findings_eq, tableRun, declarationsRun]
  rfl

/-! ### The codes of each stage -/

/-- Whether a diagnostic is reported under one of some codes. -/
def Diagnostic.IsOf (codes : List Code) (diagnostic : Diagnostic) : Prop :=
  ∃ code ∈ codes, diagnostic.code = code.name

theorem Diagnostic.IsOf.code_ne {codes : List Code} {diagnostic : Diagnostic}
    (known : diagnostic.IsOf codes) {code : Code} (other : code ∉ codes) :
    diagnostic.code ≠ code.name := by
  obtain ⟨own, member, equal⟩ := known
  intro same
  rw [equal] at same
  exact other (Code.name_injective same ▸ member)

theorem Diagnostic.IsOf.mono {codes more : List Code} {diagnostic : Diagnostic}
    (known : diagnostic.IsOf codes) (subset : codes ⊆ more) : diagnostic.IsOf more := by
  obtain ⟨own, member, equal⟩ := known
  exact ⟨own, subset member, equal⟩

namespace Frontmatter

theorem mem_check {frontmatter : Option Frontmatter} {accepted : List String}
    {diagnostic : Diagnostic} :
    diagnostic ∈ check frontmatter accepted ↔
      ∃ defect ∈ defects frontmatter accepted, defect.diagnostic = diagnostic :=
  List.mem_map

theorem check_codes {frontmatter : Option Frontmatter} {accepted : List String}
    {diagnostic : Diagnostic} (member : diagnostic ∈ check frontmatter accepted) :
    diagnostic.IsOf [.missingFrontmatter, .missingFrontmatterField, .invalidFrontmatterField,
      .unexpectedLanguage, .invalidVersion, .emptySummary] := by
  obtain ⟨defect, _, rfl⟩ := mem_check.mp member
  exact ⟨defect.code, by cases defect <;> simp [Defect.code], rfl⟩

end Frontmatter

namespace Document

theorem checkPresence_codes {document : Document} {diagnostic : Diagnostic}
    (member : diagnostic ∈ document.checkPresence) :
    diagnostic.IsOf [.missingSection, .missingRecommendedSection] := by
  unfold checkPresence at member
  simp only [List.mem_append] at member
  rcases member with (index | modules) | recommended
  · split at index
    · rw [List.mem_singleton.mp index]
      exact ⟨.missingSection, by simp, rfl⟩
    · cases index
  · split at modules
    · rw [List.mem_singleton.mp modules]
      exact ⟨.missingSection, by simp, rfl⟩
    · cases modules
  · obtain ⟨kind, _, rfl⟩ := List.mem_map.mp recommended
    exact ⟨.missingRecommendedSection, by simp, rfl⟩

end Document

namespace Section

theorem checkRepetition_codes {sections : List Section} {diagnostic : Diagnostic}
    (member : diagnostic ∈ checkRepetition sections) : diagnostic.IsOf [.duplicateSection] := by
  obtain ⟨entry, _, rfl⟩ := List.mem_map.mp member
  exact ⟨.duplicateSection, List.mem_singleton_self _, rfl⟩

theorem checkOrder_codes {strict : Bool} {sections : List Section} {diagnostic : Diagnostic}
    (member : diagnostic ∈ checkOrder strict sections) :
    diagnostic.IsOf [.sectionOutOfOrder] := by
  obtain ⟨pair, _, rfl⟩ := List.mem_map.mp member
  exact ⟨.sectionOutOfOrder, List.mem_singleton_self _, rfl⟩

theorem checkShape_codes {part : Section} {diagnostic : Diagnostic}
    (member : diagnostic ∈ part.checkShape) :
    diagnostic.IsOf [.malformedIndex, .invalidModuleName, .emptyModuleSection,
      .missingExampleCode, .emptySection, .unknownSection] := by
  obtain ⟨defect, _, rfl⟩ := List.mem_map.mp member
  exact ⟨defect.code, by cases defect <;> simp [ShapeDefect.code], rfl⟩

end Section

namespace Document

theorem checkSections_codes {document : Document} {strict : Bool} {diagnostic : Diagnostic}
    (member : diagnostic ∈ document.checkSections strict) :
    diagnostic.IsOf [.missingSection, .missingRecommendedSection, .sectionOutOfOrder,
      .duplicateSection, .malformedIndex, .invalidModuleName, .emptyModuleSection,
      .missingExampleCode, .emptySection, .unknownSection] := by
  unfold checkSections at member
  simp only [List.mem_append] at member
  rcases member with ((presence | order) | repetition) | shape
  · exact (checkPresence_codes presence).mono (by decide)
  · exact (Section.checkOrder_codes order).mono (by decide)
  · exact (Section.checkRepetition_codes repetition).mono (by decide)
  · obtain ⟨part, _, inPart⟩ := List.mem_flatMap.mp shape
    exact (Section.checkShape_codes inPart).mono (by decide)

theorem checkDeclarations_codes {document : Document} {declarations : List Diagnostic}
    (run : document.checkDeclarations = .ok declarations) {diagnostic : Diagnostic}
    (member : diagnostic ∈ declarations) : diagnostic.IsOf [.unrecognizedObjectHeader] := by
  rw [checkDeclarations_eq] at run
  cases contentsRun : document.moduleContents with
  | error failure => simp [contentsRun, Except.map] at run
  | ok contents =>
    simp only [contentsRun, Except.map, Except.ok.injEq] at run
    rw [← run] at member
    obtain ⟨content, _, inContent⟩ := List.mem_flatMap.mp member
    obtain ⟨declaration, _, rfl⟩ := List.mem_map.mp inContent
    exact ⟨.unrecognizedObjectHeader, List.mem_singleton_self _, rfl⟩

theorem checkReferences_codes {document : Document} {index sections : SymbolTable}
    {allowed : List String} {diagnostic : Diagnostic}
    (member : diagnostic ∈ document.checkReferences index sections allowed) :
    diagnostic.IsOf [.unknownSymbolReference] := by
  obtain ⟨reference, _, rfl⟩ := List.mem_map.mp member
  exact ⟨.unknownSymbolReference, List.mem_singleton_self _, rfl⟩

end Document

theorem SymbolTable.resolve_codes {index sections : SymbolTable} {diagnostic : Diagnostic}
    (member : diagnostic ∈ index.resolve sections) :
    diagnostic.IsOf [.undocumentedSymbol, .unlistedSymbol, .duplicateSymbol, .moduleMismatch,
      .kindMismatch] := by
  obtain ⟨mismatch, _, rfl⟩ := List.mem_map.mp member
  exact ⟨mismatch.code, by cases mismatch <;> simp [Mismatch.code], rfl⟩

/-! ### Errors and the outcome -/

theorem FatalDefect.isError_diagnostic (defect : FatalDefect) :
    defect.diagnostic.isError = true := by
  cases defect <;> rfl

/-- A document is in order if and only if no diagnostic of its report is an error. -/
theorem validate_outcome {text : String} {settings : Settings} {source : Option String}
    {report : Report} (run : validate text settings source = .ok report) :
    report.ok = !report.diagnostics.any Diagnostic.isError := by
  rcases validate_cases run with ⟨document, defect, _, rfl⟩ | ⟨_, _, _, _, _, _, rfl⟩
  · simp [Report.ofFatal, defect.isError_diagnostic]
  · rfl

/-- A report has errors if and only if it counts some. -/
theorem Report.hasErrors_iff_count {report : Report} :
    report.hasErrors = true ↔ 0 < report.count .error := by
  rw [hasErrors, List.any_eq_true, count, List.countP_pos_iff]
  rfl

/-- A document is in order if and only if its report counts no error. -/
theorem ok_iff_count_eq_zero {text : String} {settings : Settings} {source : Option String}
    {report : Report} (run : validate text settings source = .ok report) :
    report.ok = true ↔ report.count .error = 0 := by
  rw [← Nat.le_zero, ← Nat.not_lt, ← Report.hasErrors_iff_count, validate_outcome run,
    Bool.not_eq_true', Bool.not_eq_true]
  rfl

end LlmTxt

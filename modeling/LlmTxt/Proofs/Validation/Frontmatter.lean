/-
This file shows that what stands in the frontmatter hides nothing behind it. Whether the block is a
mapping or no YAML at all, the stages behind the first go through the same sections and tables. Only
two things of it go further: the package and the language that it names, and both reach the search
for references in example code alone.
-/

import LlmTxt.Proofs.Frontmatter.Defects
import LlmTxt.Proofs.Section.Front
import LlmTxt.Proofs.Validation.Masking

namespace LlmTxt

/-! ### What hangs on the frontmatter -/

namespace Diagnostic

/-- The codes of the diagnostics that hang on what the frontmatter says: what is wrong in it, and
references to the package that it names. -/
def frontmatterCodes : List Code :=
  [.missingFrontmatterField, .invalidFrontmatterField, .unexpectedLanguage, .invalidVersion,
    .emptySummary, .unknownSymbolReference]

/-- Whether a diagnostic hangs on what the frontmatter says. -/
def hangsOnFrontmatter (diagnostic : Diagnostic) : Bool :=
  frontmatterCodes.any fun code => code.name == diagnostic.code

/-- Diagnostics without offsets, and without those that hang on what the frontmatter says. -/
def besidesFrontmatter (diagnostics : List Diagnostic) : List Diagnostic :=
  (diagnostics.map unplaced).filter fun diagnostic => !diagnostic.hangsOnFrontmatter

theorem besidesFrontmatter_eq_nil {diagnostics : List Diagnostic}
    (known : ∀ diagnostic ∈ diagnostics, diagnostic.IsOf frontmatterCodes) :
    besidesFrontmatter diagnostics = [] := by
  refine List.filter_eq_nil_iff.mpr fun diagnostic member => ?_
  obtain ⟨own, inDiagnostics, rfl⟩ := List.mem_map.mp member
  obtain ⟨code, inCodes, same⟩ := known own inDiagnostics
  have hangs : own.unplaced.hangsOnFrontmatter = true :=
    List.any_eq_true.mpr ⟨code, inCodes, beq_iff_eq.mpr same.symm⟩
  rw [hangs]
  exact Bool.false_ne_true

theorem besidesFrontmatter_congr {first second : List Diagnostic}
    (same : first.map unplaced = second.map unplaced) :
    besidesFrontmatter first = besidesFrontmatter second := by
  unfold besidesFrontmatter
  rw [same]

end Diagnostic

theorem Findings.besidesFrontmatter_merged (findings : Findings) :
    Diagnostic.besidesFrontmatter findings.merged =
      merged ⟨findings.stages.map Diagnostic.besidesFrontmatter⟩ := by
  unfold Diagnostic.besidesFrontmatter
  rw [unplaced_merged, filter_merged, filter, List.map_map]
  rfl

namespace Frontmatter

/-- A frontmatter that is there is not reported as missing. -/
theorem missing_not_mem (block : Frontmatter) (accepted : List String) :
    Defect.missing ∉ defects (some block) accepted :=
  fun member => nomatch mem_defects_iff.mp member

/-- Whatever is wrong inside a frontmatter is reported under five codes. -/
theorem besidesFrontmatter_check (block : Frontmatter) (accepted : List String) :
    Diagnostic.besidesFrontmatter (check (some block) accepted) = [] := by
  refine Diagnostic.besidesFrontmatter_eq_nil fun diagnostic member => ?_
  obtain ⟨defect, inDefects, rfl⟩ := mem_check.mp member
  refine ⟨defect.code, ?_, rfl⟩
  cases defect with
  | missing => exact absurd inDefects (block.missing_not_mem accepted)
  | _ => simp [Defect.code, Diagnostic.frontmatterCodes]

end Frontmatter

/-! ### What the stages find behind the frontmatter -/

namespace Document

theorem besidesFrontmatter_checkReferences (document : Document) (index sections : SymbolTable)
    (allowed : List String) :
    Diagnostic.besidesFrontmatter (document.checkReferences index sections allowed) = [] :=
  Diagnostic.besidesFrontmatter_eq_nil fun _ member =>
    (checkReferences_codes member).mono (by decide)

/-- What the stages find besides the frontmatter is found in the document behind it. -/
theorem IsFronted.besidesFrontmatter_stages {document inner : Document} {frontmatter : Frontmatter}
    {front : Section} (fronted : document.IsFronted frontmatter front inner) (settings : Settings)
    (sections : SymbolTable) (declarations : List Diagnostic) :
    (document.stages settings sections declarations).map Diagnostic.besidesFrontmatter =
      [[], Diagnostic.besidesFrontmatter (inner.checkSections settings.strictOrder),
        Diagnostic.besidesFrontmatter declarations,
        Diagnostic.besidesFrontmatter (inner.indexTable.resolve sections), []] := by
  have present : document.frontmatter = some frontmatter := by
    rw [fronted.document_eq]
    rfl
  simp only [stages, List.map_cons, List.map_nil, present, Frontmatter.besidesFrontmatter_check,
    besidesFrontmatter_checkReferences, fronted.checkSections_eq, fronted.indexTable_eq]

section TwoDocuments

variable {document inner twin twinInner : Document} {frontmatter twinFrontmatter : Frontmatter}
  {front twinFront : Section} (fronted : document.IsFronted frontmatter front inner)
  (twinFronted : twin.IsFronted twinFrontmatter twinFront twinInner)
  (masked : inner.masked = twinInner.masked)

include fronted twinFronted masked

/-- Documents that are the same behind the frontmatter declare the same. -/
theorem IsFronted.declarations_eq {declarations twinDeclarations : List Diagnostic}
    (run : document.checkDeclarations = .ok declarations)
    (twinRun : twin.checkDeclarations = .ok twinDeclarations) :
    declarations = twinDeclarations := by
  rw [fronted.checkDeclarations_eq, ← inner.checkDeclarations_masked, masked,
    twinInner.checkDeclarations_masked, ← twinFronted.checkDeclarations_eq, twinRun] at run
  exact (Except.ok.inj run).symm

/-- Documents that are the same behind the frontmatter have the same mismatches. -/
theorem IsFronted.resolve_eq {sections twinSections : SymbolTable}
    (run : document.moduleTable = .ok sections) (twinRun : twin.moduleTable = .ok twinSections) :
    (inner.indexTable.resolve sections).map Diagnostic.unplaced =
      (twinInner.indexTable.resolve twinSections).map Diagnostic.unplaced := by
  have index : inner.indexTable = twinInner.indexTable := by
    rw [← inner.indexTable_masked, masked, twinInner.indexTable_masked]
  have tables : Except.map SymbolTable.unplaced (.ok sections : Except UnknownWord SymbolTable) =
      Except.map SymbolTable.unplaced (.ok twinSections) := by
    rw [← run, ← twinRun, fronted.moduleTable_eq, twinFronted.moduleTable_eq,
      ← inner.moduleTable_masked, masked, twinInner.moduleTable_masked]
  have unplaced : sections.unplaced = twinSections.unplaced := Except.ok.inj tables
  rw [← SymbolTable.resolve_unplaced, index, unplaced, SymbolTable.resolve_unplaced]

end TwoDocuments

end Document

/-! ### Two texts -/

/-- What is wrong in the frontmatter hides nothing. Where the frontmatters of two texts are closed on
one line and the lines behind are the same, whatever the two blocks are, both reports are fatal or
neither is, and they say the same besides what is wrong in the frontmatter and the references in
code, up to offsets. -/
theorem frontmatter_hides_nothing {text other : String} {closing : Nat}
    (closes : Document.ClosesFrontmatter (Source.ofString text).lines closing)
    (twinCloses : Document.ClosesFrontmatter (Source.ofString other).lines closing)
    (same : ((Source.ofString text).lines.drop closing).map Line.characters =
      ((Source.ofString other).lines.drop closing).map Line.characters)
    {settings : Settings} {source twinSource : Option String} {report twinReport : Report}
    (run : validate text settings source = .ok report)
    (twinRun : validate other settings twinSource = .ok twinReport) :
    report.fatal = twinReport.fatal ∧
      Diagnostic.besidesFrontmatter report.diagnostics =
        Diagnostic.besidesFrontmatter twinReport.diagnostics := by
  rcases validate_cases run with
    ⟨document, _, read, rfl⟩ | ⟨document, sections, declarations, read, tables, declared, rfl⟩ <;>
  rcases validate_cases twinRun with
    ⟨twin, _, twinRead, rfl⟩ |
      ⟨twin, twinSections, twinDeclarations, twinRead, twinTables, twinDeclared, rfl⟩ <;>
  rcases Document.ofText_of_same_body read twinRead closes twinCloses same with
    ⟨_, _, found, twinFound, unplaced⟩ |
      ⟨noDefect, noTwinDefect, frontmatter, twinFrontmatter, front, twinFront, inner, twinInner,
        fronted, twinFronted, masked⟩
  · cases found
    cases twinFound
    refine ⟨rfl, Diagnostic.besidesFrontmatter_congr ?_⟩
    exact congrArg (fun diagnostic => [diagnostic]) unplaced
  · cases noDefect
  · cases twinFound
  · cases noDefect
  · cases found
  · cases noTwinDefect
  · cases found
  · refine ⟨rfl, ?_⟩
    have content : ∀ part ∈ inner.sections, part.masked.hasContent = part.hasContent :=
      fun part member => Document.hasContent_masked read (by
        rw [fronted.sections_eq]
        exact List.mem_cons_of_mem front member)
    have twinContent : ∀ part ∈ twinInner.sections, part.masked.hasContent = part.hasContent :=
      fun part member => Document.hasContent_masked twinRead (by
        rw [twinFronted.sections_eq]
        exact List.mem_cons_of_mem twinFront member)
    have parts : (inner.checkSections settings.strictOrder).map Diagnostic.unplaced =
        (twinInner.checkSections settings.strictOrder).map Diagnostic.unplaced := by
      rw [← Document.checkSections_masked content, masked,
        Document.checkSections_masked twinContent]
    have mismatches := Document.IsFronted.resolve_eq fronted twinFronted masked tables twinTables
    rw [Report.ofFindings, Report.ofFindings, Findings.besidesFrontmatter_merged,
      Findings.besidesFrontmatter_merged]
    dsimp only
    rw [fronted.besidesFrontmatter_stages, twinFronted.besidesFrontmatter_stages,
      Document.IsFronted.declarations_eq fronted twinFronted masked declared twinDeclared,
      Diagnostic.besidesFrontmatter_congr parts, Diagnostic.besidesFrontmatter_congr mismatches]

/-- A text whose frontmatter is a mapping that names a package. -/
def packageText : String :=
  "---\npackage: p\nlanguage: c\n---\n## Index\n- **m**\n## Examples\n~~~ python\nimport p.n\n~~~\n"

/-- The same text with a block that is no YAML. -/
def brokenText : String :=
  "---\n[\n\n---\n## Index\n- **m**\n## Examples\n~~~ python\nimport p.n\n~~~\n"

theorem frontmatter_hides_nothing_of_broken :
    ∃ report twinReport,
      Document.ClosesFrontmatter (Source.ofString packageText).lines 4 ∧
      Document.ClosesFrontmatter (Source.ofString brokenText).lines 4 ∧
      ((Source.ofString packageText).lines.drop 4).map Line.characters =
        ((Source.ofString brokenText).lines.drop 4).map Line.characters ∧
      validate packageText .default none = .ok report ∧
      validate brokenText .default none = .ok twinReport ∧
      report.fatal = twinReport.fatal ∧
      Diagnostic.besidesFrontmatter report.diagnostics =
        Diagnostic.besidesFrontmatter twinReport.diagnostics := by
  have checked : (validate packageText .default none).toOption.isSome = true := by decide +kernel
  have twinChecked : (validate brokenText .default none).toOption.isSome = true := by
    decide +kernel
  have closes : Document.ClosesFrontmatter (Source.ofString packageText).lines 4 :=
    ⟨_, _, _, _, rfl, by decide +kernel, rfl⟩
  have twinCloses : Document.ClosesFrontmatter (Source.ofString brokenText).lines 4 :=
    ⟨_, _, _, _, rfl, by decide +kernel, rfl⟩
  have same : ((Source.ofString packageText).lines.drop 4).map Line.characters =
      ((Source.ofString brokenText).lines.drop 4).map Line.characters := by decide +kernel
  cases run : validate packageText .default none with
  | error failure =>
    rw [run] at checked
    cases checked
  | ok report =>
    cases twinRun : validate brokenText .default none with
    | error failure =>
      rw [twinRun] at twinChecked
      cases twinChecked
    | ok twinReport =>
      exact ⟨report, twinReport, closes, twinCloses, same, rfl, rfl,
        frontmatter_hides_nothing closes twinCloses same run twinRun⟩

end LlmTxt

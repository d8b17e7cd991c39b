/-
This file shows that the report on a text says the same whatever stands inside its fenced code, but
for the references in that code. All other stages of a check find in a document without the text of
its code what they find in the document, up to offsets, and offsets have no say in the order of a
report. A reference that nothing documents is no error, so code cannot fail a document either.
-/

import LlmTxt.Proofs.Symbol.Masking

namespace LlmTxt

/-! ### What is left of a report -/

/-- Whether a diagnostic reports something else than a reference in code. -/
def Diagnostic.isStructural (diagnostic : Diagnostic) : Bool :=
  diagnostic.code != Code.unknownSymbolReference.name

/-- Diagnostics without offsets, but for those of references in code. -/
def Diagnostic.structural (diagnostics : List Diagnostic) : List Diagnostic :=
  (diagnostics.map Diagnostic.unplaced).filter Diagnostic.isStructural

/-- A report without offsets and without what it says of references in code. -/
def Report.structural (report : Report) : Report :=
  { report with diagnostics := Diagnostic.structural report.diagnostics }

namespace Findings

/-- What findings say without offsets and without references in code: the diagnostics of each
stage, and whether there is an error. -/
def structural (findings : Findings) : List (List Diagnostic) × Bool :=
  (findings.stages.map Diagnostic.structural, findings.hasErrors)

/-- To put a report together from findings without offsets is to drop the offsets of the report. -/
theorem unplaced_merged (findings : Findings) :
    findings.merged.map Diagnostic.unplaced =
      merged ⟨findings.stages.map (List.map Diagnostic.unplaced)⟩ := by
  have order : ∀ first ∈ findings.stages.flatten, ∀ second ∈ findings.stages.flatten,
      first.sortsBefore second = first.unplaced.sortsBefore second.unplaced :=
    fun _ _ _ _ => rfl
  unfold merged
  rw [List.map_mergeSort order, List.map_flatten]

theorem structural_merged (findings : Findings) :
    Diagnostic.structural findings.merged =
      merged ⟨findings.stages.map Diagnostic.structural⟩ := by
  unfold Diagnostic.structural
  rw [unplaced_merged, filter_merged, filter, List.map_map]
  rfl

end Findings

/-- Findings that say the same but for offsets and references make reports that do. -/
theorem Report.structural_ofFindings {first second : Findings} (source : Option String)
    (same : first.structural = second.structural) :
    (ofFindings first source).structural = (ofFindings second source).structural := by
  obtain ⟨stages, errors⟩ := Prod.mk.inj same
  simp only [structural, ofFindings, Findings.structural_merged, Findings.any_isError_merged,
    stages, errors]

/-! ### What the stages find -/

namespace Diagnostic

variable {first second : List Diagnostic}
  (same : first.map unplaced = second.map unplaced)

include same

theorem structural_congr : structural first = structural second := by
  unfold structural
  rw [same]

theorem any_isError_congr : first.any isError = second.any isError := by
  have erased (diagnostics : List Diagnostic) :
      (diagnostics.map unplaced).any isError = diagnostics.any isError := List.any_map
  rw [← erased, same, erased]

end Diagnostic

namespace Document

theorem structural_checkReferences (document : Document) (index sections : SymbolTable)
    (allowed : List String) :
    Diagnostic.structural (document.checkReferences index sections allowed) = [] := by
  refine List.filter_eq_nil_iff.mpr fun diagnostic member => ?_
  obtain ⟨own, inReferences, rfl⟩ := List.mem_map.mp member
  obtain ⟨reference, _, rfl⟩ := List.mem_map.mp inReferences
  have code : reference.diagnostic.unplaced.code = Code.unknownSymbolReference.name := rfl
  rw [Diagnostic.isStructural, code, bne_self_eq_false]
  exact Bool.false_ne_true

theorem any_isError_checkReferences (document : Document) (index sections : SymbolTable)
    (allowed : List String) :
    (document.checkReferences index sections allowed).any Diagnostic.isError = false := by
  refine List.any_eq_false.mpr fun diagnostic member => ?_
  obtain ⟨reference, _, rfl⟩ := List.mem_map.mp member
  exact nofun

/-- The stages of a check find the same without the text of code, up to offsets and references. -/
theorem findings_masked {document : Document}
    (content : ∀ part ∈ document.sections, part.masked.hasContent = part.hasContent)
    (settings : Settings) :
    (document.masked.findings settings).map Findings.structural =
      (document.findings settings).map Findings.structural := by
  rw [findings_eq, findings_eq, moduleTable_masked, checkDeclarations_masked]
  cases document.moduleTable with
  | error failure => rfl
  | ok sections =>
    cases document.checkDeclarations with
    | error failure => rfl
    | ok declarations =>
      have parts := checkSections_masked content settings.strictOrder
      have tables := document.indexTable.resolve_unplaced sections
      have front : Frontmatter.check document.masked.frontmatter settings.acceptedLanguages =
          Frontmatter.check document.frontmatter settings.acceptedLanguages := rfl
      refine congrArg Except.ok ?_
      simp only [Findings.structural, Findings.hasErrors, stages, List.map_cons, List.map_nil,
        List.any_cons, List.any_nil, structural_checkReferences, any_isError_checkReferences,
        indexTable_masked, front]
      rw [Diagnostic.structural_congr parts, Diagnostic.structural_congr tables,
        Diagnostic.any_isError_congr parts, Diagnostic.any_isError_congr tables]

end Document

/-! ### Two texts -/

section TwoTexts

variable {text other : String} {document twin : Document}
  (read : Document.ofText text = .ok (document, none))
  (twinRead : Document.ofText other = .ok (twin, none))

include read twinRead

/-- Reports on documents that are the same but for their code say the same but for offsets and
references in code, and one of them is there only if the other is. -/
theorem validate_structural (masked : document.masked = twin.masked) (settings : Settings)
    (source : Option String) :
    (validate text settings source).map Report.structural =
      (validate other settings source).map Report.structural := by
  have own := document.findings_masked (fun _ => Document.hasContent_masked read) settings
  have others := twin.findings_masked (fun _ => Document.hasContent_masked twinRead) settings
  rw [masked] at own
  have same := own.symm.trans others
  unfold validate
  rw [read, twinRead]
  dsimp only
  cases run : document.findings settings <;> cases twinRun : twin.findings settings <;>
    rw [run, twinRun] at same
  · cases same
    rfl
  · cases same
  · cases same
  · exact congrArg Except.ok (Report.structural_ofFindings source (Except.ok.inj same))

end TwoTexts

/-- Fences mask structure. Where two texts differ in nothing but lines inside the fenced code of
their bodies, their documents are the same but for the text of that code and for offsets, so they
have the same title, and the same sections in kind, title, level, module name, lines, headings and
code blocks by language and lines. The table of the Index is the same, and that of the module
sections is the same but for offsets. And whatever the settings, a check comes to a report on both
or on neither, and the reports say the same but for offsets and for references in code. -/
theorem code_masks_structure {text other : String} {document twin : Document}
    (read : Document.ofText text = .ok (document, none))
    (twinRead : Document.ofText other = .ok (twin, none))
    (differ : document.DifferInCode text other) :
    document.masked = twin.masked ∧ document.indexTable = twin.indexTable ∧
      document.moduleTable.map SymbolTable.unplaced = twin.moduleTable.map SymbolTable.unplaced ∧
      ∀ (settings : Settings) (source : Option String),
        (validate text settings source).map Report.structural =
          (validate other settings source).map Report.structural := by
  have masked := Document.masked_eq read twinRead differ
  refine ⟨masked, ?_, ?_, fun settings source => ?_⟩
  · rw [← document.indexTable_masked, masked, twin.indexTable_masked]
  · rw [← document.moduleTable_masked, masked, twin.moduleTable_masked]
  · exact validate_structural read twinRead masked settings source

/-- A text whose code looks like a heading and like a fence of the other kind. -/
def headingInCodeText : String :=
  "# T\n## Index\n- **m**\n\x60\x60\x60\n## Module: m\n~~~\n\x60\x60\x60\n"

/-- The same text with a list item and a blank line as its code. -/
def bulletInCodeText : String :=
  "# T\n## Index\n- **m**\n\x60\x60\x60\n- **n**\n\n\x60\x60\x60\n"

theorem code_masks_structure_of_heading :
    ∃ document twin, Document.ofText headingInCodeText = .ok (document, none) ∧
      Document.ofText bulletInCodeText = .ok (twin, none) ∧
      document.DifferInCode headingInCodeText bulletInCodeText ∧
      document.masked = twin.masked ∧ document.indexTable = twin.indexTable ∧
      document.moduleTable.map SymbolTable.unplaced = twin.moduleTable.map SymbolTable.unplaced ∧
      ∀ (settings : Settings) (source : Option String),
        (validate headingInCodeText settings source).map Report.structural =
          (validate bulletInCodeText settings source).map Report.structural := by
  obtain ⟨document, twin, read, twinRead, differ⟩ : ∃ document twin,
      Document.ofText headingInCodeText = .ok (document, none) ∧
        Document.ofText bulletInCodeText = .ok (twin, none) ∧
        document.DifferInCode headingInCodeText bulletInCodeText :=
    ⟨_, _, rfl, rfl, by decide +kernel⟩
  exact ⟨document, twin, read, twinRead, differ, code_masks_structure read twinRead differ⟩

end LlmTxt

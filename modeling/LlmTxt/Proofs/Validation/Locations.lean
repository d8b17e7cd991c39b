/-
This file shows that every location in a report is real. A report comes from many stages, and each
puts what it finds on lines in its own way; but all of them take the lines from the document, and
what the document keeps lies in its text. So a diagnostic always points to lines that are there,
and an offset is the one at which its first line begins.
-/

import LlmTxt.Proofs.Example.Places
import LlmTxt.Proofs.Frontmatter.Places
import LlmTxt.Proofs.Section.Places
import LlmTxt.Proofs.Symbol.Places

namespace LlmTxt

namespace Document

variable {text : String} {document : Document}

/-- The diagnostics of headings outside the grammar are on lines of the text. -/
theorem checkDeclarations_liesIn (read : ofText text = .ok (document, none))
    {declarations : List Diagnostic} (run : document.checkDeclarations = .ok declarations)
    {diagnostic : Diagnostic} (member : diagnostic ∈ declarations) :
    diagnostic.span.LiesIn (Source.ofString text) := by
  rw [checkDeclarations_eq] at run
  cases contentsRun : document.moduleContents with
  | error failure => simp [contentsRun, Except.map] at run
  | ok contents =>
    simp only [contentsRun, Except.map, Except.ok.injEq] at run
    rw [← run] at member
    obtain ⟨content, inContents, ofContent⟩ := List.mem_flatMap.mp member
    obtain ⟨declaration, selected, rfl⟩ := List.mem_map.mp ofContent
    obtain ⟨part, inSections, _, headings⟩ := exists_of_mem_moduleContents contentsRun inContents
    have heading := headings declaration (List.mem_filter.mp selected).1
    exact ((section_liesIn read inSections).headings_hasLine _ heading).liesIn_line

/-- Whatever the stages find is on places of the text. -/
theorem stages_liesIn (read : ofText text = .ok (document, none)) (settings : Settings)
    {sections : SymbolTable} (tableRun : document.moduleTable = .ok sections)
    {declarations : List Diagnostic}
    (declarationsRun : document.checkDeclarations = .ok declarations) {diagnostic : Diagnostic}
    (member : diagnostic ∈ (document.stages settings sections declarations).flatten) :
    diagnostic.span.LiesIn (Source.ofString text) := by
  unfold stages at member
  simp only [List.flatten_cons, List.flatten_nil, List.append_nil, List.mem_append] at member
  rcases member with frontmatter | shape | declared | compared | references
  · exact checkFrontmatter_liesIn read frontmatter
  · exact checkSections_liesIn read shape
  · exact checkDeclarations_liesIn read declarationsRun declared
  · obtain ⟨mismatch, found, rfl⟩ := List.mem_map.mp compared
    exact (indexTable_liesIn read).mismatches (moduleTable_liesIn read tableRun) found
  · exact checkReferences_liesIn read references

end Document

/-- The span of every diagnostic of a report lies in the text that has been checked, and so do the
spans of all sections and code blocks of the document that has been read. -/
theorem locations_lie_in_text (text : String) (settings : Settings) (source : Option String) :
    (∀ report, validate text settings source = .ok report →
      ∀ diagnostic ∈ report.diagnostics, diagnostic.span.LiesIn (Source.ofString text)) ∧
    ∀ document defect?, Document.ofText text = .ok (document, defect?) →
      ∀ part ∈ document.sections, part.span.LiesIn (Source.ofString text) ∧
        ∀ block ∈ part.codeBlocks, block.span.LiesIn (Source.ofString text) := by
  constructor
  · intro report run diagnostic member
    rcases validate_cases run with
      ⟨document, defect, read, rfl⟩ | ⟨document, sections, declarations, read, tableRun,
        declarationsRun, rfl⟩
    · rw [List.mem_singleton.mp member]
      exact Document.defect_liesIn read
    · have found := Findings.mem_merged.mp member
      exact Document.stages_liesIn read settings tableRun declarationsRun
        (List.mem_flatten.mpr found)
  · intro document defect? read part member
    cases defect? with
    | some defect =>
      rw [(Document.ofText_eq_defect read).2] at member
      cases member
    | none =>
      have within := Document.section_liesIn read member
      exact ⟨within.span_liesIn, fun block inPart =>
        (within.codeBlocks_liesIn block inPart).span_liesIn⟩

theorem locations_of_coded_index_lie_in_text :
    (∃ report, validate "## Index\n~~~\n~~~" .default none = .ok report ∧
      ∀ diagnostic ∈ report.diagnostics,
        diagnostic.span.LiesIn (Source.ofString "## Index\n~~~\n~~~")) ∧
    ∃ document, Document.ofText "## Index\n~~~\n~~~" = .ok (document, none) ∧
      ∀ part ∈ document.sections,
        part.span.LiesIn (Source.ofString "## Index\n~~~\n~~~") ∧
          ∀ block ∈ part.codeBlocks,
            block.span.LiesIn (Source.ofString "## Index\n~~~\n~~~") :=
  ⟨⟨_, rfl, (locations_lie_in_text "## Index\n~~~\n~~~" .default none).1 _ rfl⟩,
    _, rfl, (locations_lie_in_text "## Index\n~~~\n~~~" .default none).2 _ none rfl⟩

end LlmTxt

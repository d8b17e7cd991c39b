/-
This file shows that what is said about a frontmatter is said about a place of the text: a key is
put on the line on which it stands, or else on the whole block, and a fault of the block is put on
a line of it, wherever YAML may have found it.
-/

import LlmTxt.Proofs.Document.Places
import LlmTxt.Proofs.Frontmatter.Defects
import LlmTxt.Proofs.Frontmatter.Keys

namespace LlmTxt

namespace Frontmatter

/-- A frontmatter lies in a text with all the lines that it names. -/
structure LiesIn (source : Source) (frontmatter : Frontmatter) : Prop where
  span_liesIn : frontmatter.span.LiesIn source
  keyLines_hasLine : ∀ entry ∈ frontmatter.keyLines, source.HasLine entry.2
  faultLine_hasLine : ∀ line, frontmatter.faultLine = some line → source.HasLine line

variable {source : Source} {frontmatter : Frontmatter}

/-- What reading a block keeps of it is on its lines. -/
theorem liesIn_of_ofLines {body : List Line} (within : ∀ line ∈ body, line ∈ source.lines)
    {closing : Nat} (closes : source.HasLine closing)
    (loaded : ofLines body closing = .ok frontmatter) : frontmatter.LiesIn source := by
  obtain ⟨content, _, rfl⟩ := ofLines_eq_ok_iff_content.mp loaded
  refine ⟨Source.liesIn_of_hasLine closes, ?_, ?_⟩
  · intro entry member
    obtain ⟨line, inBody, same⟩ := exists_of_mem_linesOfKeys member
    rw [← same]
    exact Source.hasLine_of_mem (within line inBody)
  · intro line atFault
    obtain ⟨number, _, rfl⟩ := Option.map_eq_some_iff.mp atFault
    have positive := closes.number_pos
    have bound := closes.number_le
    constructor <;> omega

theorem LiesIn.spanOf (within : frontmatter.LiesIn source) (key : String) :
    (frontmatter.spanOf key).LiesIn source := by
  unfold Frontmatter.spanOf
  split
  · rename_i line found
    obtain ⟨before, after, cut, _⟩ := List.lookup_eq_some_iff.mp found
    have member : (key, line) ∈ frontmatter.keyLines := by simp [cut]
    exact (within.keyLines_hasLine _ member).liesIn_line
  · exact within.span_liesIn

/-- What is wrong with a frontmatter is put on a place of the text. -/
theorem LiesIn.defects (within : frontmatter.LiesIn source) {accepted : List String}
    {defect : Defect} (member : defect ∈ defects (some frontmatter) accepted) :
    defect.span.LiesIn source := by
  cases mem_defects_iff.mp member with
  | faulty found =>
    change Span.LiesIn source (Option.getD _ _)
    cases line : frontmatter.faultLine with
    | none => exact within.span_liesIn
    | some number => exact (within.faultLine_hasLine number line).liesIn_line
  | missingKey => exact within.span_liesIn
  | notText => exact within.spanOf _
  | emptyPackage => exact within.spanOf _
  | unexpectedLanguage => exact within.spanOf _
  | invalidVersion => exact within.spanOf _
  | emptySummary => exact within.spanOf _

end Frontmatter

namespace Document

/-- The diagnostics of the frontmatter of a document are on places of its text. -/
theorem checkFrontmatter_liesIn {text : String} {document : Document}
    (read : ofText text = .ok (document, none)) {accepted : List String} {diagnostic : Diagnostic}
    (member : diagnostic ∈ Frontmatter.check document.frontmatter accepted) :
    diagnostic.span.LiesIn (Source.ofString text) := by
  obtain ⟨defect, inDefects, rfl⟩ := List.mem_map.mp member
  change defect.span.LiesIn _
  obtain ⟨preamble, blocks, cut, _⟩ := ofText_eq_ok read
  cases cut with
  | bare _ frontmatter_eq _ =>
    rw [frontmatter_eq] at inDefects
    rw [List.mem_singleton.mp inDefects]
    exact Span.liesIn_lineAt_one _
  | fronted opener body closer frontmatter lines_eq loaded frontmatter_eq _ =>
    rw [frontmatter_eq] at inDefects
    have within : frontmatter.LiesIn (Source.ofString text) := by
      refine Frontmatter.liesIn_of_ofLines ?_ (Source.hasLine_of_mem (by simp [lines_eq])) loaded
      intro line inBody
      simp [lines_eq, inBody]
    exact within.defects inDefects

end Document

end LlmTxt

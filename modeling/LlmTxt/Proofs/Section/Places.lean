/-
This file shows that the checks of the sections of a document report nothing but places of its
text. A section that is missing is put on the first line; a section that stands in the wrong place
or again is put on its heading; a defect of shape is put on the heading or on the whole section;
and a problem of an Index is put on its line.
-/

import LlmTxt.Proofs.Outline.Places
import LlmTxt.Proofs.Symbol.Places
import LlmTxt.Section.Rules

namespace LlmTxt

namespace Section

theorem mem_of_mem_outOfOrder {highest : Option Section} {sections : List Section}
    {pair : Section × Section} (member : pair ∈ outOfOrder highest sections) :
    pair.1 ∈ sections := by
  induction sections generalizing highest with
  | nil =>
    rw [outOfOrder] at member
    cases member
  | cons part rest inductionHypothesis =>
    unfold outOfOrder at member
    split at member
    · exact List.mem_cons_of_mem _ (inductionHypothesis member)
    · split at member
      · rcases List.mem_cons.mp member with rfl | later
        · exact List.mem_cons_self
        · exact List.mem_cons_of_mem _ (inductionHypothesis later)
      · exact List.mem_cons_of_mem _ (inductionHypothesis member)

theorem mem_of_mem_repeated {seen sections : List Section} {entry : Section × Slot × Section}
    (member : entry ∈ repeated seen sections) : entry.1 ∈ sections := by
  induction sections generalizing seen with
  | nil => cases member
  | cons part rest inductionHypothesis =>
    rw [repeated] at member
    split at member
    · exact List.mem_cons_of_mem _ (inductionHypothesis member)
    · split at member
      · exact List.mem_cons_of_mem _ (inductionHypothesis member)
      · rcases List.mem_cons.mp member with rfl | later
        · exact List.mem_cons_self
        · exact List.mem_cons_of_mem _ (inductionHypothesis later)

/-- Only problems of the outline are reported as problems of an Index. -/
theorem mem_problems_of_mem_shapeDefects {part : Section} {problem : OutlineProblem}
    (member : ShapeDefect.index problem ∈ part.shapeDefects) :
    problem ∈ (Outline.ofSection part).problems := by
  have notName : ShapeDefect.index problem ∉ part.nameDefects := by
    unfold nameDefects
    dsimp only
    split
    · simp
    · split <;> simp
  have notObject : ShapeDefect.index problem ∉ part.objectDefects := by
    unfold objectDefects
    split <;> simp
  unfold shapeDefects at member
  split at member
  · obtain ⟨own, inProblems, same⟩ := List.mem_map.mp member
    cases same
    exact inProblems
  · rcases List.mem_append.mp member with name | object
    · exact absurd name notName
    · exact absurd object notObject
  all_goals simp at member

/-- A defect of the shape of a section is put on a place of it. -/
theorem LiesIn.shapeDefects {source : Source} {part : Section} (within : part.LiesIn source)
    {defect : ShapeDefect} (member : defect ∈ part.shapeDefects) :
    (defect.span part).LiesIn source := by
  cases defect with
  | index problem =>
    have outline := Outline.isWithin_ofSection within.first_hasLine within.lines_hasLine
    have found := mem_problems_of_mem_shapeDefects member
    exact (outline.problems_within problem found).liesIn_line
  | unnamedModule => exact within.headingSpan_liesIn
  | badModuleName name => exact within.headingSpan_liesIn
  | unknown => exact within.headingSpan_liesIn
  | noObject => exact within.span_liesIn
  | noExample => exact within.span_liesIn
  | empty => exact within.span_liesIn

end Section

/-- The diagnostics of the sections of a document are on places of its text. -/
theorem Document.checkSections_liesIn {text : String} {document : Document}
    (read : ofText text = .ok (document, none)) {strict : Bool} {diagnostic : Diagnostic}
    (member : diagnostic ∈ document.checkSections strict) :
    diagnostic.span.LiesIn (Source.ofString text) := by
  unfold checkSections at member
  simp only [List.mem_append] at member
  rcases member with ((presence | order) | repetition) | shape
  · have missing : diagnostic.span = .lineAt 1 0 := by
      unfold checkPresence at presence
      simp only [List.mem_append] at presence
      rcases presence with (index | modules) | recommended
      · split at index
        · rw [List.mem_singleton.mp index]
          rfl
        · cases index
      · split at modules
        · rw [List.mem_singleton.mp modules]
          rfl
        · cases modules
      · obtain ⟨kind, _, rfl⟩ := List.mem_map.mp recommended
        rfl
    rw [missing]
    exact Span.liesIn_lineAt_one _
  · obtain ⟨pair, found, rfl⟩ := List.mem_map.mp order
    exact (section_liesIn read (Section.mem_of_mem_outOfOrder found)).headingSpan_liesIn
  · obtain ⟨entry, found, rfl⟩ := List.mem_map.mp repetition
    exact (section_liesIn read (Section.mem_of_mem_repeated found)).headingSpan_liesIn
  · obtain ⟨part, inSections, ofPart⟩ := List.mem_flatMap.mp shape
    obtain ⟨defect, found, rfl⟩ := List.mem_map.mp ofPart
    exact (section_liesIn read inSections).shapeDefects found

end LlmTxt

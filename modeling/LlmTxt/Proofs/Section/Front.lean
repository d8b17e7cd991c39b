/-
This file shows that the section that stands for the frontmatter has no say in the checks behind it.
It is the first section, so nothing comes before it; its rank is the lowest, so nothing comes behind
it that should come before; it is no section of which there may be one only; and it has no shape of
its own. The tables of symbols are read from sections of other kinds.
-/

import LlmTxt.Proofs.Document.Fronted
import LlmTxt.Proofs.Symbol.Masking

namespace LlmTxt

namespace SectionKind

theorem precedes_frontmatter (kind : SectionKind) : kind.precedes .frontmatter = false := by
  cases kind <;> rfl

/-- The frontmatter comes before every other kind that has a place. -/
theorem frontmatter_precedes {kind : SectionKind} (other : kind ≠ .frontmatter) :
    SectionKind.frontmatter.precedes kind = kind.rank.isSome := by
  cases kind with
  | frontmatter => exact absurd rfl other
  | _ => rfl

end SectionKind

namespace Section

variable {front : Section} (isFront : front.kind = .frontmatter)

include isFront

/-- A section for the frontmatter that has been read already is never of a higher rank. -/
theorem outOfOrder_behind {parts : List Section}
    (others : ∀ part ∈ parts, part.kind ≠ .frontmatter) :
    outOfOrder (some front) parts = outOfOrder none parts := by
  induction parts with
  | nil => rfl
  | cons part rest inductionHypothesis =>
    obtain ⟨own, further⟩ := List.forall_mem_cons.mp others
    have inOrder : part.kind.precedes front.kind = false := by
      rw [isFront]
      exact part.kind.precedes_frontmatter
    rw [outOfOrder, outOfOrder, if_neg (Bool.eq_false_iff.mp inOrder)]
    unfold higher
    dsimp only
    rw [isFront, SectionKind.frontmatter_precedes own]
    split
    · rfl
    · exact inductionHypothesis further

theorem checkOrder_front (strict : Bool) {parts : List Section}
    (others : ∀ part ∈ parts, part.kind ≠ .frontmatter) :
    checkOrder strict (front :: parts) = checkOrder strict parts := by
  have placed : front.kind.rank.isSome = true := by
    rw [isFront]
    rfl
  have first : outOfOrder none (front :: parts) = outOfOrder (some front) parts := by
    rw [outOfOrder, higher, placed, if_pos rfl]
  unfold checkOrder
  rw [first, outOfOrder_behind isFront others]

theorem slot?_front : front.slot? = none := by
  unfold slot?
  rw [isFront]
  rfl

/-- A section for the frontmatter takes nothing that may stand only once. -/
theorem repeated_behind (seen parts : List Section) :
    repeated (front :: seen) parts = repeated seen parts := by
  induction parts generalizing seen with
  | nil => rfl
  | cons part rest inductionHypothesis =>
    have passed (slot : Slot) :
        (front :: seen).find? (fun earlier => earlier.slot? == some slot) =
          seen.find? fun earlier => earlier.slot? == some slot := by
      rw [List.find?_cons_of_neg]
      rw [slot?_front isFront]
      exact Bool.false_ne_true
    rw [repeated, repeated, List.cons_append, inductionHypothesis (seen ++ [part])]
    simp only [passed]

theorem checkRepetition_front (parts : List Section) :
    checkRepetition (front :: parts) = checkRepetition parts := by
  have first : repeated [] (front :: parts) = repeated [front] parts := by
    rw [repeated, slot?_front isFront]
    rfl
  unfold checkRepetition
  rw [first, repeated_behind isFront]

theorem checkShape_front : front.checkShape = [] := by
  unfold checkShape shapeDefects
  rw [isFront]
  rfl

end Section

namespace Document

variable {document inner : Document} {frontmatter : Frontmatter} {front : Section}
  (fronted : document.IsFronted frontmatter front inner)

include fronted

theorem IsFronted.sections_eq : document.sections = front :: inner.sections := by
  rw [fronted.document_eq]
  rfl

theorem IsFronted.first?_eq {kind : SectionKind} (other : kind ≠ .frontmatter) :
    document.first? kind = inner.first? kind := by
  have passed : ¬(front.kind == kind) = true := by
    rw [fronted.front_kind, beq_iff_eq]
    exact other.symm
  unfold first?
  rw [fronted.sections_eq]
  exact List.find?_cons_of_neg passed

theorem IsFronted.moduleSections_eq : document.moduleSections = inner.moduleSections := by
  have passed : ¬(front.kind == SectionKind.moduleSection) = true := by
    rw [fronted.front_kind]
    exact Bool.false_ne_true
  unfold moduleSections sectionsOf
  rw [fronted.sections_eq, List.filter_cons, if_neg passed]

theorem IsFronted.checkPresence_eq : document.checkPresence = inner.checkPresence := by
  have recommended : (recommendedKinds.filter fun kind => (document.first? kind).isNone) =
      recommendedKinds.filter fun kind => (inner.first? kind).isNone := by
    refine List.filter_congr fun kind member => ?_
    rw [fronted.first?_eq]
    rintro rfl
    exact absurd member (by decide)
  unfold checkPresence
  rw [fronted.first?_eq (by decide), fronted.moduleSections_eq, recommended]

/-- The sections are checked as they would be without the frontmatter. -/
theorem IsFronted.checkSections_eq (strict : Bool) :
    document.checkSections strict = inner.checkSections strict := by
  have shapes : (front :: inner.sections).flatMap Section.checkShape =
      inner.sections.flatMap Section.checkShape := by
    rw [List.flatMap_cons, Section.checkShape_front fronted.front_kind, List.nil_append]
  unfold checkSections
  rw [fronted.checkPresence_eq, fronted.sections_eq, shapes,
    Section.checkOrder_front fronted.front_kind strict fronted.parts_kind,
    Section.checkRepetition_front fronted.front_kind]

theorem IsFronted.indexTable_eq : document.indexTable = inner.indexTable := by
  unfold indexTable
  rw [fronted.first?_eq (by decide)]

theorem IsFronted.moduleContents_eq : document.moduleContents = inner.moduleContents := by
  unfold moduleContents
  rw [fronted.moduleSections_eq]

theorem IsFronted.moduleTable_eq : document.moduleTable = inner.moduleTable := by
  unfold moduleTable
  rw [fronted.moduleContents_eq]

theorem IsFronted.checkDeclarations_eq :
    document.checkDeclarations = inner.checkDeclarations := by
  unfold checkDeclarations
  rw [fronted.moduleContents_eq]

end Document

end LlmTxt

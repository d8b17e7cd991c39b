/-
This file shows that the checks of sections have no use for the text of code. Each of them finds in
a document without it what it finds in the document, up to offsets: the order and the repetition of
sections look at their kinds, their modules and their first lines, and the outline of an Index takes
nothing from a line of code but its number. Only whether a section is empty could be told from the
text of code, but code has its fences.
-/

import LlmTxt.Proofs.Document.Lockstep
import LlmTxt.Section.Rules

namespace LlmTxt

/-! ### The outline of an Index -/

namespace OutlineReading

/-- A line of code is read by its number alone. -/
theorem readLine_masked (reading : OutlineReading) (line : SourceLine) :
    reading.readLine line.masked = reading.readLine line := by
  unfold SourceLine.masked
  split
  · rename_i inCode
    unfold readLine
    rw [if_pos inCode, if_pos inCode]
  · rfl

end OutlineReading

theorem Outline.ofSection_masked (index : Section) : ofSection index.masked = ofSection index := by
  have lines : index.masked.lines.foldl OutlineReading.readLine .start =
      index.lines.foldl OutlineReading.readLine .start := by
    unfold Section.masked
    dsimp only
    rw [List.foldl_map]
    congr 1
    funext reading line
    exact reading.readLine_masked line
  unfold ofSection
  rw [lines]
  rfl

namespace Section

/-! ### The shape of a section -/

/-- The shape of a section is found without the text of its code, if that has no say in whether the
section is empty. -/
theorem shapeDefects_masked {part : Section} (content : part.masked.hasContent = part.hasContent) :
    part.masked.shapeDefects = part.shapeDefects := by
  have blocks : part.masked.codeBlocks.isEmpty = part.codeBlocks.isEmpty := List.isEmpty_map
  have names : part.masked.nameDefects = part.nameDefects := rfl
  have objects : part.masked.objectDefects = part.objectDefects := rfl
  have kind : part.masked.kind = part.kind := rfl
  unfold shapeDefects
  rw [content, blocks, names, objects, kind, Outline.ofSection_masked]

theorem ShapeDefect.diagnostic_masked (part : Section) (defect : ShapeDefect) :
    (defect.diagnostic part.masked).unplaced = (defect.diagnostic part).unplaced := by
  cases defect <;> rfl

theorem checkShape_masked {part : Section} (content : part.masked.hasContent = part.hasContent) :
    part.masked.checkShape.map Diagnostic.unplaced = part.checkShape.map Diagnostic.unplaced := by
  unfold checkShape
  rw [shapeDefects_masked content, List.map_map, List.map_map]
  exact List.map_congr_left fun defect _ => ShapeDefect.diagnostic_masked part defect

/-! ### Order and repetition -/

theorem higher_masked (highest : Option Section) (part : Section) :
    higher (highest.map masked) part.masked = (higher highest part).map masked := by
  cases highest with
  | none =>
    have rank : part.masked.kind.rank.isSome = part.kind.rank.isSome := rfl
    unfold higher
    dsimp only [Option.map_none]
    rw [rank]
    split <;> rfl
  | some top =>
    have precedes : top.masked.kind.precedes part.masked.kind = top.kind.precedes part.kind := rfl
    unfold higher
    dsimp only [Option.map_some]
    rw [precedes]
    split <;> rfl

theorem outOfOrder_masked (highest : Option Section) (sections : List Section) :
    outOfOrder (highest.map masked) (sections.map masked) =
      (outOfOrder highest sections).map fun pair => (pair.1.masked, pair.2.masked) := by
  induction sections generalizing highest with
  | nil => rfl
  | cons part rest inductionHypothesis =>
    cases highest with
    | none =>
      have next := inductionHypothesis (higher none part)
      rw [← higher_masked] at next
      exact next
    | some top =>
      have precedes : part.masked.kind.precedes top.masked.kind = part.kind.precedes top.kind :=
        rfl
      rw [List.map_cons, Option.map_some, outOfOrder, outOfOrder, precedes]
      split
      · rw [List.map_cons, ← inductionHypothesis, Option.map_some]
      · rw [← inductionHypothesis, ← higher_masked, Option.map_some]

theorem checkOrder_masked (strict : Bool) (sections : List Section) :
    (checkOrder strict (sections.map masked)).map Diagnostic.unplaced =
      (checkOrder strict sections).map Diagnostic.unplaced := by
  have pairs := outOfOrder_masked none sections
  rw [Option.map_none] at pairs
  unfold checkOrder
  rw [pairs, List.map_map, List.map_map, List.map_map]
  exact List.map_congr_left fun pair _ => rfl

theorem repeated_masked (seen sections : List Section) :
    repeated (seen.map masked) (sections.map masked) =
      (repeated seen sections).map fun entry => (entry.1.masked, entry.2.1, entry.2.2.masked) := by
  induction sections generalizing seen with
  | nil => rfl
  | cons part rest inductionHypothesis =>
    have further := inductionHypothesis (seen ++ [part])
    rw [List.map_append, List.map_singleton] at further
    have slot : part.masked.slot? = part.slot? := rfl
    rw [List.map_cons, repeated, repeated, slot, further]
    cases part.slot? with
    | none => rfl
    | some own =>
      dsimp only
      have found : (seen.map masked).find? (fun earlier => earlier.slot? == some own) =
          (seen.find? fun earlier => earlier.slot? == some own).map masked := List.find?_map
      rw [found]
      cases seen.find? fun earlier => earlier.slot? == some own <;> rfl

theorem checkRepetition_masked (sections : List Section) :
    (checkRepetition (sections.map masked)).map Diagnostic.unplaced =
      (checkRepetition sections).map Diagnostic.unplaced := by
  have entries := repeated_masked [] sections
  rw [List.map_nil] at entries
  unfold checkRepetition
  rw [entries, List.map_map, List.map_map, List.map_map]
  exact List.map_congr_left fun entry _ => rfl

end Section

/-! ### All checks of sections -/

namespace Document

theorem sectionsOf_masked (document : Document) (kind : SectionKind) :
    document.masked.sectionsOf kind = (document.sectionsOf kind).map Section.masked :=
  List.filter_map

theorem first?_masked (document : Document) (kind : SectionKind) :
    document.masked.first? kind = (document.first? kind).map Section.masked :=
  List.find?_map

theorem checkPresence_masked (document : Document) :
    document.masked.checkPresence = document.checkPresence := by
  unfold checkPresence moduleSections
  simp only [first?_masked, sectionsOf_masked, Option.isNone_map, List.isEmpty_map]

/-- The sections of a document are checked without the text of their code, if that has no say in
whether one of them is empty. -/
theorem checkSections_masked {document : Document}
    (content : ∀ part ∈ document.sections, part.masked.hasContent = part.hasContent)
    (strict : Bool) :
    (document.masked.checkSections strict).map Diagnostic.unplaced =
      (document.checkSections strict).map Diagnostic.unplaced := by
  have shapes : (document.masked.sections.flatMap Section.checkShape).map Diagnostic.unplaced =
      (document.sections.flatMap Section.checkShape).map Diagnostic.unplaced := by
    rw [List.map_flatMap, List.map_flatMap]
    unfold masked
    dsimp only
    rw [List.flatMap_map]
    exact List.flatMap_congr fun part member => Section.checkShape_masked (content part member)
  have order := Section.checkOrder_masked strict document.sections
  have repetition := Section.checkRepetition_masked document.sections
  unfold checkSections
  rw [List.map_append, List.map_append, List.map_append, checkPresence_masked, shapes]
  unfold masked
  dsimp only
  rw [order, repetition, List.map_append, List.map_append, List.map_append]

end Document

end LlmTxt

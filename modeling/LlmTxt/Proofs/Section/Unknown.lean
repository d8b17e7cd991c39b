/-
This file puts a section of unknown kind behind the sections of a document. Such a section has no
place in the canonical order, takes nothing that may stand only once, and is neither an Index nor a
module section. So each stage of a check finds what it has found before. Whatever the section holds,
list items, headings that would declare a module or an object, is never looked at. Only its code is,
since references are looked for in all sections; so the code must not be in the language of the
examples. All that is added is the word that the section is unknown.
-/

import LlmTxt.Proofs.Section.Flagged
import LlmTxt.Proofs.Validation.Stages

namespace LlmTxt

namespace Section

variable {part : Section} (unknown : part.kind = .unknown)

include unknown

theorem outOfOrder_concat (highest : Option Section) (sections : List Section) :
    outOfOrder highest (sections ++ [part]) = outOfOrder highest sections := by
  rw [outOfOrder_append_singleton, lateBehind_of_unknown unknown, List.append_nil]

theorem repeated_concat (seen sections : List Section) :
    repeated seen (sections ++ [part]) = repeated seen sections := by
  rw [repeated_append_singleton, againBehind_of_unknown unknown, List.append_nil]

theorem checkShape_of_unknown : part.checkShape = [ShapeDefect.unknown.diagnostic part] := by
  unfold checkShape shapeDefects
  rw [unknown]
  rfl

end Section

namespace Document

/-- The language of the examples that are looked at: the one that the document names, or else the
one that is assumed. -/
def exampleLanguage (document : Document) : String :=
  (Language.canonical document.language).getD ReferenceSearch.defaultLanguage

/-- A document with one more section at its end, and as many lines as it has then. -/
def withLast (document : Document) (part : Section) (lineCount : Nat) : Document :=
  { document with
    sections := document.sections ++ [part]
    lineCount := lineCount }

/-- Code in other languages than that of the examples makes no references. -/
theorem references_withLast (document : Document) {part : Section} (lineCount : Nat)
    (foreign : ∀ block ∈ part.codeBlocks,
      Language.canonical block.language ≠ some document.exampleLanguage) (allowed : List String) :
    (document.withLast part lineCount).references allowed = document.references allowed := by
  have passed (package : String) (reading : ReferenceReading) :
      reading.readSection (.ofPackage package document.language allowed) part = reading := by
    have blocks (own : List CodeBlock) (others : ∀ block ∈ own, block ∈ part.codeBlocks) :
        own.foldl (ReferenceReading.readBlock (.ofPackage package document.language allowed)
          part.kind) reading = reading := by
      induction own with
      | nil => rfl
      | cons block rest inductionHypothesis =>
        obtain ⟨first, further⟩ := List.forall_mem_cons.mp others
        have skipped : reading.readBlock (.ofPackage package document.language allowed) part.kind
            block = reading := if_neg (foreign block first)
        rw [List.foldl_cons, skipped, inductionHypothesis further]
    unfold ReferenceReading.readSection
    rw [blocks part.codeBlocks fun _ => id, ite_self]
  have package : (document.withLast part lineCount).package = document.package := rfl
  have language : (document.withLast part lineCount).language = document.language := rfl
  have sections : (document.withLast part lineCount).sections = document.sections ++ [part] := rfl
  unfold references ReferenceSearch.references
  rw [package, language, sections]
  simp only [List.foldl_append, List.foldl_cons, List.foldl_nil, passed]

variable (document : Document) {part : Section} (lineCount : Nat) (unknown : part.kind = .unknown)

include unknown

theorem first?_withLast (kind : SectionKind) (known : kind ≠ .unknown) :
    (document.withLast part lineCount).first? kind = document.first? kind := by
  have other : (part.kind == kind) = false := by
    rw [unknown]
    exact beq_false_of_ne known.symm
  have last : [part].find? (·.kind == kind) = none := by
    rw [List.find?_singleton, other]
    rfl
  unfold first? withLast
  rw [List.find?_append, last, Option.or_none]

theorem sectionsOf_withLast (kind : SectionKind) (known : kind ≠ .unknown) :
    (document.withLast part lineCount).sectionsOf kind = document.sectionsOf kind := by
  have other : (part.kind == kind) = false := by
    rw [unknown]
    exact beq_false_of_ne known.symm
  unfold sectionsOf withLast
  rw [List.filter_append, List.filter_singleton, other]
  exact List.append_nil _

theorem checkPresence_withLast :
    (document.withLast part lineCount).checkPresence = document.checkPresence := by
  have modules : (document.withLast part lineCount).moduleSections = document.moduleSections :=
    document.sectionsOf_withLast lineCount unknown .moduleSection nofun
  have recommended : (recommendedKinds.filter fun kind =>
        ((document.withLast part lineCount).first? kind).isNone) =
      recommendedKinds.filter fun kind => (document.first? kind).isNone := by
    refine List.filter_congr fun kind member => ?_
    have known : kind ≠ .unknown := by
      rintro rfl
      revert member
      decide
    rw [document.first?_withLast lineCount unknown kind known]
  unfold checkPresence
  rw [document.first?_withLast lineCount unknown .index nofun, modules, recommended]

/-- The checks of sections say that the last one is unknown, behind what they say of the others. -/
theorem checkSections_withLast (strict : Bool) :
    (document.withLast part lineCount).checkSections strict =
      document.checkSections strict ++ [Section.ShapeDefect.unknown.diagnostic part] := by
  have sections : (document.withLast part lineCount).sections = document.sections ++ [part] := rfl
  unfold checkSections Section.checkOrder Section.checkRepetition
  rw [document.checkPresence_withLast lineCount unknown, sections,
    Section.outOfOrder_concat unknown, Section.repeated_concat unknown, List.flatMap_append,
    List.flatMap_singleton, Section.checkShape_of_unknown unknown, ← List.append_assoc]

theorem indexTable_withLast :
    (document.withLast part lineCount).indexTable = document.indexTable := by
  unfold indexTable
  rw [document.first?_withLast lineCount unknown .index nofun]

theorem moduleContents_withLast :
    (document.withLast part lineCount).moduleContents = document.moduleContents := by
  unfold moduleContents moduleSections
  rw [document.sectionsOf_withLast lineCount unknown .moduleSection nofun]

theorem moduleTable_withLast :
    (document.withLast part lineCount).moduleTable = document.moduleTable := by
  rw [moduleTable_eq, moduleTable_eq, document.moduleContents_withLast lineCount unknown]

theorem checkDeclarations_withLast :
    (document.withLast part lineCount).checkDeclarations = document.checkDeclarations := by
  rw [checkDeclarations_eq, checkDeclarations_eq,
    document.moduleContents_withLast lineCount unknown]

/-- The stages of a check find what they have found, and that the last section is unknown. -/
theorem stages_withLast
    (foreign : ∀ block ∈ part.codeBlocks,
      Language.canonical block.language ≠ some document.exampleLanguage)
    (settings : Settings) (sections : SymbolTable) (declarations : List Diagnostic) :
    ∃ front back,
      (document.stages settings sections declarations).flatten = front ++ back ∧
      ((document.withLast part lineCount).stages settings sections declarations).flatten =
        front ++ Section.ShapeDefect.unknown.diagnostic part :: back := by
  have frontmatter : (document.withLast part lineCount).frontmatter = document.frontmatter := rfl
  have references : (document.withLast part lineCount).checkReferences document.indexTable sections
        settings.allowed =
      document.checkReferences document.indexTable sections settings.allowed := by
    unfold checkReferences unresolved
    rw [document.references_withLast lineCount foreign]
  refine ⟨Frontmatter.check document.frontmatter settings.acceptedLanguages ++
    document.checkSections settings.strictOrder, declarations ++
      (document.indexTable.resolve sections ++
        document.checkReferences document.indexTable sections settings.allowed), ?_, ?_⟩
  · simp only [stages, List.flatten_cons, List.flatten_nil, List.append_nil, List.append_assoc]
  · simp only [stages, List.flatten_cons, List.flatten_nil, List.append_nil, List.append_assoc,
      frontmatter, document.checkSections_withLast lineCount unknown,
      document.indexTable_withLast lineCount unknown, references, List.singleton_append]

end Document

end LlmTxt

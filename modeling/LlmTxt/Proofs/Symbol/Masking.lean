/-
This file shows that the symbol tables of a document have no use for the text of its code. The
Index is read by the outline, which takes nothing but a number from a line of code, and the module
sections by their headings, none of which is code. All that a table holds of offsets is where its
modules are introduced, and nothing that is found when two tables are compared hangs on that but
the offset of a span.
-/

import LlmTxt.CrossReference
import LlmTxt.Proofs.Section.Masking
import LlmTxt.Proofs.Steps
import LlmTxt.Proofs.Validation.Stages

namespace LlmTxt

/-! ### Tables without offsets -/

/-- What a module section says, without the offset of the section. -/
def ModuleContent.unplaced (content : ModuleContent) : ModuleContent :=
  { content with span := content.span.unplaced }

/-- A table without the offsets at which its modules are introduced. Symbols have none. -/
def SymbolTable.unplaced (table : SymbolTable) : SymbolTable :=
  { table with moduleSpans := table.moduleSpans.map fun entry => (entry.1, entry.2.unplaced) }

namespace SymbolTable

theorem lookup_unplaced (spans : List (String × Span)) (module : String) :
    (spans.map fun entry => (entry.1, entry.2.unplaced)).lookup module =
      (spans.lookup module).map Span.unplaced := by
  induction spans with
  | nil => rfl
  | cons entry rest inductionHypothesis =>
    rw [List.map_cons, List.lookup_cons, List.lookup_cons, inductionHypothesis]
    cases module == entry.1 <;> rfl

theorem add_unplaced (table : SymbolTable) (module : String) (span : Span)
    (symbols : List SymbolEntry) :
    (table.add module span symbols).unplaced = table.unplaced.add module span.unplaced symbols := by
  unfold add unplaced
  dsimp only
  rw [lookup_unplaced, Option.isSome_map]
  split
  · rfl
  · rw [List.map_append, List.map_singleton]

theorem moduleSpan_unplaced (table : SymbolTable) (module : String) :
    (table.unplaced.moduleSpan module).unplaced = (table.moduleSpan module).unplaced := by
  have symbols : table.unplaced.get? module = table.get? module := rfl
  have spans : table.unplaced.moduleSpans.lookup module =
      (table.moduleSpans.lookup module).map Span.unplaced :=
    lookup_unplaced table.moduleSpans module
  unfold moduleSpan
  rw [symbols, spans]
  cases table.moduleSpans.lookup module <;> rfl

end SymbolTable

/-! ### Two tables against each other -/

namespace SymbolTable

theorem documentedOnly_unplaced (sections : SymbolTable) (module : String)
    (symbols : List SymbolEntry) :
    ((sections.unplaced.documentedOnly module symbols).map fun mismatch =>
        mismatch.diagnostic.unplaced) =
      (sections.documentedOnly module symbols).map fun mismatch =>
        mismatch.diagnostic.unplaced := by
  have span := sections.moduleSpan_unplaced module
  -- A span only shows in the span of a mismatch.
  have only (place : Span) : (Mismatch.onlyDocumented module place).diagnostic.unplaced =
      (Mismatch.onlyDocumented module place.unplaced).diagnostic := rfl
  have alone (names : List String) (place : Span) :
      (Mismatch.documentedAlone module names place).diagnostic.unplaced =
        (Mismatch.documentedAlone module names place.unplaced).diagnostic := rfl
  unfold documentedOnly
  dsimp only
  rw [List.map_cons, List.map_cons, only, only, span]
  split
  · rfl
  · rw [List.map_singleton, List.map_singleton, alone, alone, span]

/-- The Index is compared with the module sections without the offsets of these. -/
theorem resolve_unplaced (index sections : SymbolTable) :
    (index.resolve sections.unplaced).map Diagnostic.unplaced =
      (index.resolve sections).map Diagnostic.unplaced := by
  have shown (table : SymbolTable) : (index.resolve table).map Diagnostic.unplaced =
      (index.mismatches table).map fun mismatch => mismatch.diagnostic.unplaced := List.map_map
  have alone : (sections.unplaced.modules.flatMap fun entry =>
        if index.contains entry.1 then []
        else sections.unplaced.documentedOnly entry.1 entry.2).map
          (fun mismatch => mismatch.diagnostic.unplaced) =
      (sections.modules.flatMap fun entry =>
        if index.contains entry.1 then [] else sections.documentedOnly entry.1 entry.2).map
          fun mismatch => mismatch.diagnostic.unplaced := by
    rw [List.map_flatMap, List.map_flatMap]
    refine List.flatMap_congr fun entry _ => ?_
    split
    · rfl
    · exact sections.documentedOnly_unplaced entry.1 entry.2
  rw [shown, shown]
  unfold mismatches
  dsimp only
  rw [List.map_append, alone, ← List.map_append]
  rfl

end SymbolTable

/-! ### The tables of a document -/

namespace Document

theorem indexTable_masked (document : Document) :
    document.masked.indexTable = document.indexTable := by
  unfold indexTable
  rw [first?_masked]
  cases document.first? .index with
  | none => rfl
  | some index => exact congrArg SymbolTable.ofOutline (Outline.ofSection_masked index)

theorem moduleContents_masked (document : Document) :
    document.masked.moduleContents =
      document.moduleContents.map (List.map ModuleContent.unplaced) := by
  unfold moduleContents moduleSections
  rw [sectionsOf_masked, List.filter_map]
  refine mapM_map_eq (fun part => ?_) _
  have headings : part.masked.headings = part.headings := rfl
  rw [headings]
  cases Declaration.ofHeadings none part.headings <;> rfl

theorem checkDeclarations_masked (document : Document) :
    document.masked.checkDeclarations = document.checkDeclarations := by
  rw [checkDeclarations_eq, checkDeclarations_eq, moduleContents_masked]
  cases document.moduleContents with
  | error failure => rfl
  | ok contents =>
    simp only [Except.map, List.flatMap_map]
    rfl

theorem moduleTable_masked (document : Document) :
    document.masked.moduleTable = document.moduleTable.map SymbolTable.unplaced := by
  rw [moduleTable_eq, moduleTable_eq, moduleContents_masked]
  cases document.moduleContents with
  | error failure => rfl
  | ok contents =>
    refine congrArg Except.ok ?_
    dsimp only
    rw [List.foldl_map]
    change List.foldl _ (SymbolTable.empty .moduleSections).unplaced contents = _
    refine List.foldl_hom SymbolTable.unplaced ?_
    intro table content
    exact (table.add_unplaced content.module content.span
      (content.declarations.map (·.symbol content.module))).symm

end Document

end LlmTxt

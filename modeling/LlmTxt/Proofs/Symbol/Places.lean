/-
This file shows that both symbol tables of a document put each module and each symbol on a line of
the text, and that comparing them reports nothing elsewhere. The table of the Index takes its lines
from the outline, and the table of the module sections takes them from the headings. A module of a
table without a place of its own would be put on the first line, which is a place too.
-/

import LlmTxt.CrossReference
import LlmTxt.Proofs.Document.Places
import LlmTxt.Proofs.Outline.Places
import LlmTxt.Proofs.Symbol.Agreement
import LlmTxt.Proofs.Symbol.Declaration
import LlmTxt.Proofs.Validation.Stages

namespace LlmTxt

namespace SymbolTable

/-- Every module and every symbol of a table is put on a place of a text. -/
structure LiesIn (source : Source) (table : SymbolTable) : Prop where
  symbols_liesIn : ∀ entry ∈ table.modules, ∀ symbol ∈ entry.2, symbol.span.LiesIn source
  modules_liesIn : ∀ entry ∈ table.moduleSpans, entry.2.LiesIn source

variable {source : Source} {table : SymbolTable}

theorem liesIn_empty (source : Source) (part : TableSource) : (empty part).LiesIn source :=
  ⟨by simp [empty], by simp [empty]⟩

theorem forall_mem_addSymbols {property : SymbolEntry → Prop} {module : String}
    {symbols : List SymbolEntry} {modules : List (String × List SymbolEntry)}
    (new : ∀ symbol ∈ symbols, property symbol)
    (all : ∀ entry ∈ modules, ∀ symbol ∈ entry.2, property symbol) :
    ∀ entry ∈ addSymbols module symbols modules, ∀ symbol ∈ entry.2, property symbol := by
  fun_induction addSymbols module symbols modules with
  | case1 => exact List.forall_mem_singleton.mpr new
  | case2 others rest =>
    obtain ⟨own, further⟩ := List.forall_mem_cons.mp all
    refine List.forall_mem_cons.mpr ⟨?_, further⟩
    intro symbol member
    rcases List.mem_append.mp member with earlier | added
    · exact own symbol earlier
    · exact new symbol added
  | case3 known others rest _ inductionHypothesis =>
    obtain ⟨own, further⟩ := List.forall_mem_cons.mp all
    exact List.forall_mem_cons.mpr ⟨own, inductionHypothesis further⟩

theorem LiesIn.add (within : table.LiesIn source) {span : Span} (place : span.LiesIn source)
    {symbols : List SymbolEntry} (places : ∀ symbol ∈ symbols, symbol.span.LiesIn source)
    (module : String) : (table.add module span symbols).LiesIn source := by
  refine ⟨forall_mem_addSymbols places within.symbols_liesIn, ?_⟩
  unfold SymbolTable.add
  dsimp only
  split
  · exact within.modules_liesIn
  · intro entry member
    rcases List.mem_append.mp member with earlier | last
    · exact within.modules_liesIn entry earlier
    · rw [List.mem_singleton.mp last]
      exact place

/-- A module is introduced on a place of the text, whether or not the table knows where. -/
theorem LiesIn.moduleSpan (within : table.LiesIn source) (module : String) :
    (table.moduleSpan module).LiesIn source := by
  unfold SymbolTable.moduleSpan
  split
  · rename_i span _ found
    exact within.modules_liesIn _ (mem_of_lookup found)
  · rename_i symbol _ found
    obtain ⟨symbols, inTable, first⟩ := Option.bind_eq_some_iff.mp found
    exact within.symbols_liesIn _ (mem_of_lookup inTable) symbol (List.mem_of_head? first)
  · exact Span.liesIn_line (Nat.le_refl 1) (Nat.le_max_left 1 _)

/-! ### Mismatches -/

theorem mem_of_mem_repeatedSymbols {seen symbols : List SymbolEntry}
    {pair : SymbolEntry × SymbolEntry} (member : pair ∈ repeatedSymbols seen symbols) :
    pair.1 ∈ symbols := by
  induction symbols generalizing seen with
  | nil => cases member
  | cons symbol rest inductionHypothesis =>
    rw [repeatedSymbols] at member
    split at member
    · exact List.mem_cons_of_mem _ (inductionHypothesis member)
    · rcases List.mem_cons.mp member with rfl | later
      · exact List.mem_cons_self
      · exact List.mem_cons_of_mem _ (inductionHypothesis later)

theorem mem_of_mem_firstByName {symbols : List SymbolEntry} {symbol : SymbolEntry}
    (member : symbol ∈ firstByName symbols) : symbol ∈ symbols := by
  unfold firstByName at member
  induction symbols using List.reverseRecOn with
  | nil => cases member
  | append_singleton earlier last inductionHypothesis =>
    rw [List.foldl_append, List.foldl_cons, List.foldl_nil] at member
    split at member
    · exact List.mem_append_left _ (inductionHypothesis member)
    · rcases List.mem_append.mp member with known | new
      · exact List.mem_append_left _ (inductionHypothesis known)
      · exact List.mem_append_right _ new

theorem LiesIn.duplicates (within : table.LiesIn source) {mismatch : Mismatch}
    (member : mismatch ∈ table.duplicates) : mismatch.span.LiesIn source := by
  obtain ⟨entry, inTable, ofModule⟩ := List.mem_flatMap.mp member
  obtain ⟨pair, repeated, rfl⟩ := List.mem_map.mp ofModule
  exact within.symbols_liesIn entry inTable pair.1 (mem_of_mem_repeatedSymbols repeated)

theorem LiesIn.listedOnly (within : table.LiesIn source) {module : String}
    {symbols : List SymbolEntry} {mismatch : Mismatch}
    (member : mismatch ∈ table.listedOnly module symbols) : mismatch.span.LiesIn source := by
  rcases List.mem_cons.mp member with rfl | alone
  · exact within.moduleSpan module
  · split at alone
    · cases alone
    · rw [List.mem_singleton.mp alone]
      exact within.moduleSpan module

theorem LiesIn.documentedOnly (within : table.LiesIn source) {module : String}
    {symbols : List SymbolEntry} {mismatch : Mismatch}
    (member : mismatch ∈ table.documentedOnly module symbols) : mismatch.span.LiesIn source := by
  rcases List.mem_cons.mp member with rfl | alone
  · exact within.moduleSpan module
  · split at alone
    · cases alone
    · rw [List.mem_singleton.mp alone]
      exact within.moduleSpan module

theorem liesIn_compareModule {module : String} {listed documented : List SymbolEntry}
    (ofListed : ∀ symbol ∈ listed, symbol.span.LiesIn source)
    (ofDocumented : ∀ symbol ∈ documented, symbol.span.LiesIn source) {mismatch : Mismatch}
    (member : mismatch ∈ compareModule module listed documented) :
    mismatch.span.LiesIn source := by
  rcases List.mem_append.mp member with first | second
  · obtain ⟨symbol, inListed, found⟩ := List.mem_filterMap.mp first
    have place := ofListed symbol (mem_of_mem_firstByName inListed)
    split at found
    · cases found
      exact place
    · split at found
      · cases found
        exact place
      · cases found
  · obtain ⟨symbol, inDocumented, found⟩ := List.mem_filterMap.mp second
    split at found
    · cases found
    · cases found
      exact ofDocumented symbol (mem_of_mem_firstByName inDocumented)

/-- Comparing two tables reports nothing but places of the text that they know. -/
theorem LiesIn.mismatches {index sections : SymbolTable} (listed : index.LiesIn source)
    (documented : sections.LiesIn source) {mismatch : Mismatch}
    (member : mismatch ∈ index.mismatches sections) : mismatch.span.LiesIn source := by
  unfold SymbolTable.mismatches at member
  simp only [List.mem_append] at member
  rcases member with ((ofIndex | ofSections) | compared) | alone
  · exact listed.duplicates ofIndex
  · exact documented.duplicates ofSections
  · obtain ⟨entry, inIndex, found⟩ := List.mem_flatMap.mp compared
    split at found
    · exact listed.listedOnly found
    · rename_i symbols inSections
      exact liesIn_compareModule (listed.symbols_liesIn entry inIndex)
        (documented.symbols_liesIn _ (mem_of_lookup inSections)) found
  · obtain ⟨entry, _, found⟩ := List.mem_flatMap.mp alone
    split at found
    · cases found
    · exact documented.documentedOnly found

/-! ### The two tables of a document -/

/-- The table of an outline puts modules and symbols on the lines of the outline. -/
theorem liesIn_ofOutline {outline : Outline} (within : outline.IsWithin source.HasLine) :
    (ofOutline outline).LiesIn source := by
  have all : ∀ (modules : List OutlineModule) (table : SymbolTable), table.LiesIn source →
      (∀ module ∈ modules, module.IsWithin source.HasLine) →
      (modules.foldl (fun table module =>
        table.add module.name (.line module.line) module.symbols) table).LiesIn source := by
    intro modules
    induction modules with
    | nil => exact fun _ given _ => given
    | cons module rest inductionHypothesis =>
      intro table given modulesWithin
      obtain ⟨own, others⟩ := List.forall_mem_cons.mp modulesWithin
      refine inductionHypothesis _ (given.add own.line_within.liesIn_line ?_ _) others
      intro symbol member
      obtain ⟨category, inModule, inCategory⟩ := List.mem_flatMap.mp member
      obtain ⟨token, inTokens, rfl⟩ := List.mem_map.mp inCategory
      exact (own.tokens_within category inModule token inTokens).liesIn_line
  exact all outline.modules _ (liesIn_empty source .index) within.modules_within

end SymbolTable

namespace Section.LiesIn

variable {source : Source} {part : Section}

theorem first_hasLine (within : part.LiesIn source) : source.HasLine part.span.first where
  number_pos := within.span_liesIn.first_pos
  number_le := Nat.le_trans within.span_liesIn.first_le_last within.last_hasLine.number_le

theorem headingSpan_liesIn (within : part.LiesIn source) : part.headingSpan.LiesIn source where
  first_pos := within.span_liesIn.first_pos
  first_le_last := Nat.le_refl _
  last_le := Nat.le_trans within.span_liesIn.first_le_last within.span_liesIn.last_le
  offset_begins := within.span_liesIn.offset_begins

end Section.LiesIn

namespace Document

variable {text : String} {document : Document}

theorem indexTable_liesIn (read : ofText text = .ok (document, none)) :
    document.indexTable.LiesIn (Source.ofString text) := by
  unfold indexTable
  split
  · rename_i index found
    have within := section_liesIn read (List.mem_of_find?_eq_some found)
    exact SymbolTable.liesIn_ofOutline
      (Outline.isWithin_ofSection within.first_hasLine within.lines_hasLine)
  · exact SymbolTable.liesIn_empty _ _

theorem moduleTable_liesIn (read : ofText text = .ok (document, none)) {sections : SymbolTable}
    (run : document.moduleTable = .ok sections) : sections.LiesIn (Source.ofString text) := by
  rw [moduleTable_eq] at run
  cases contentsRun : document.moduleContents with
  | error failure => simp [contentsRun, Except.map] at run
  | ok contents =>
    simp only [contentsRun, Except.map, Except.ok.injEq] at run
    rw [← run]
    have places : ∀ content ∈ contents, content.span.LiesIn (Source.ofString text) ∧
        ∀ declaration ∈ content.declarations,
          (declaration.symbol content.module).span.LiesIn (Source.ofString text) := by
      intro content member
      obtain ⟨part, inSections, span, headings⟩ := exists_of_mem_moduleContents contentsRun member
      have within := section_liesIn read inSections
      refine ⟨span ▸ within.headingSpan_liesIn, ?_⟩
      intro declaration inContent
      exact (within.headings_hasLine _ (headings declaration inContent)).liesIn_line
    clear run contentsRun
    induction contents using List.reverseRecOn with
    | nil => exact SymbolTable.liesIn_empty _ _
    | append_singleton earlier content inductionHypothesis =>
      rw [List.foldl_append, List.foldl_cons, List.foldl_nil]
      obtain ⟨span, symbols⟩ := places content (by simp)
      refine (inductionHypothesis fun other member => places other (by simp [member])).add span
        ?_ _
      intro symbol member
      obtain ⟨declaration, inContent, rfl⟩ := List.mem_map.mp member
      exact symbols declaration inContent

end Document

end LlmTxt

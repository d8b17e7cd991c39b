/-
This file shows that a reference stands on a line of the code block that makes it. Blanking the
strings and comments of code keeps every line feed, so the cleaned code has the lines of the code.
A statement has the number of the line on which it begins, even if it goes on over others, and a
reference has the number of its statement. To show something of all references it is enough that each
statement adds none without the property, because sections, code blocks and statements are gone
through one after the other and no reference is ever changed.
-/

import LlmTxt.Example.Resolution
import LlmTxt.Proofs.Document.Places
import LlmTxt.Proofs.Example.Positions

namespace LlmTxt

/-! ### All references -/

namespace ReferenceReading

/-- All references that have been found have a property. -/
def All (property : Reference → Prop) (reading : ReferenceReading) : Prop :=
  ∀ reference ∈ reading.references.toList, property reference

variable {property : Reference → Prop} {reading : ReferenceReading} {search : ReferenceSearch}
  {line : Nat} {kind : SectionKind}

theorem All.add (all : reading.All property) {path : List Char}
    (own : property ⟨String.ofList path, line, kind⟩) :
    (reading.add path line kind).All property := by
  unfold ReferenceReading.add
  dsimp only
  split
  · exact all
  · intro reference member
    rw [Array.toList_push] at member
    rcases List.mem_append.mp member with earlier | last
    · exact all reference earlier
    · rw [List.mem_singleton.mp last]
      exact own

/-- What each step keeps is kept by all steps, one after the other. -/
theorem All.foldl {Item : Type} {step : ReferenceReading → Item → ReferenceReading}
    {items : List Item} (all : reading.All property)
    (each : ∀ item ∈ items, ∀ reading : ReferenceReading, reading.All property →
      (step reading item).All property) : (items.foldl step reading).All property := by
  induction items generalizing reading with
  | nil => exact all
  | cons item rest inductionHypothesis =>
    obtain ⟨own, others⟩ := List.forall_mem_cons.mp each
    exact inductionHypothesis (own reading all) others

theorem All.addAll (all : reading.All property) {paths : List (List Char)}
    (each : ∀ path ∈ paths, property ⟨String.ofList path, line, kind⟩) :
    (reading.addAll search paths line kind).All property :=
  all.foldl fun path member _ earlier => earlier.add (each path (List.mem_filter.mp member).1)

/-- A statement adds references with a property if all dotted names on its line have it. -/
theorem All.readStatement (all : reading.All property) {statement : Nat × List Char}
    (each : ∀ path, property ⟨String.ofList path, statement.1, kind⟩) :
    (readStatement search kind reading statement).All property := by
  unfold ReferenceReading.readStatement
  dsimp only
  split
  · rename_i found _
    have bound : All property
        { reading with bindings := found.bindings.reverse ++ reading.bindings } := all
    exact bound.addAll fun path _ => each path
  · exact all.addAll fun path _ => each path

end ReferenceReading

/-- A property that every statement keeps holds of all references. -/
theorem ReferenceSearch.forall_mem_references {property : Reference → Prop}
    (search : ReferenceSearch) {sections : List Section}
    (each : ∀ part ∈ sections, ∀ block ∈ part.codeBlocks,
      Language.canonical block.language = some search.language →
        ∀ statement ∈ ExampleCode.statements search block, ∀ reading : ReferenceReading,
          reading.All property → (reading.readStatement search part.kind statement).All property) :
    ∀ reference ∈ search.references sections, property reference := by
  have start : ReferenceReading.All property ⟨[], #[]⟩ := nofun
  refine start.foldl fun part inSections reading all => ?_
  unfold ReferenceReading.readSection
  split
  · exact all
  · refine all.foldl fun block inPart reading all => ?_
    unfold ReferenceReading.readBlock
    split
    · rename_i sameLanguage
      exact all.foldl (each part inSections block inPart sameLanguage)
    · exact all

open Text

/-! ### Statements -/

namespace ExampleCode

/-- Statements have the numbers of the lines on which they begin, first that of the import that is
under way. -/
theorem numbers_statementsFrom (pending : Option (Nat × List Char)) (number : Nat)
    (lines : List (List Char)) :
    List.Sublist ((statementsFrom pending number lines).map (·.1))
      (pending.toList.map (·.1) ++ List.range' number lines.length) := by
  induction lines generalizing pending number with
  | nil =>
    rw [statementsFrom]
    exact List.sublist_append_left _ _
  | cons line rest inductionHypothesis =>
    rw [List.length_cons, List.range'_succ]
    cases pending with
    | some earlier =>
      obtain ⟨first, text⟩ := earlier
      rw [statementsFrom]
      split
      · exact ((inductionHypothesis none (number + 1)).cons number).cons_cons first
      · refine (inductionHypothesis (some _) (number + 1)).trans ?_
        exact (List.sublist_cons_self number _).cons_cons first
    | none =>
      rw [statementsFrom]
      split
      · exact inductionHypothesis (some _) (number + 1)
      · exact (inductionHypothesis none (number + 1)).cons_cons number

theorem numbers_numbered (number : Nat) (lines : List (List Char)) :
    (numbered number lines).map (·.1) = List.range' number lines.length := by
  unfold numbered
  rw [List.map_zipWith, List.range'_eq_map_range]
  refine List.ext_getElem (by simp) fun index _ _ => ?_
  simp

/-- The statements of a code block begin on lines of its code, in their order. -/
theorem numbers_statements (search : ReferenceSearch) (block : CodeBlock) :
    List.Sublist ((statements search block).map (·.1))
      (List.range' block.firstCodeLine (splitAt '\n' block.code.toList).length) := by
  rw [← Noise.length_splitAt_sanitize block.code.toList search.language]
  unfold statements
  dsimp only
  split
  · have numbers := numbers_statementsFrom none block.firstCodeLine
      ((splitAt '\n' (Noise.sanitize block.code.toList search.language)).map withoutPrompt)
    rwa [List.length_map] at numbers
  · rw [numbers_numbered]

theorem number_of_mem_statements {search : ReferenceSearch} {block : CodeBlock}
    {statement : Nat × List Char} (member : statement ∈ statements search block) :
    block.firstCodeLine ≤ statement.1 ∧
      statement.1 < block.firstCodeLine + (splitAt '\n' block.code.toList).length :=
  List.mem_range'_1.mp ((numbers_statements search block).subset (List.mem_map_of_mem member))

/-- A statement of a code block begins on a line behind the fence that opens it, and not behind
the last line of the block. -/
theorem hasLine_of_mem_statements {source : Source} {block : CodeBlock}
    (within : block.LiesIn source) {search : ReferenceSearch} {statement : Nat × List Char}
    (member : statement ∈ statements search block) : source.HasLine statement.1 := by
  have room := within.code_fits
  have last := within.last_hasLine.number_le
  have range := number_of_mem_statements member
  rw [CodeBlock.firstCodeLine] at range
  constructor <;> omega

end ExampleCode

/-! ### References -/

/-- The references that sections of a text make are on lines of the text. -/
theorem ReferenceSearch.hasLine_of_mem_references {source : Source} (search : ReferenceSearch)
    {sections : List Section} (inText : ∀ part ∈ sections, part.LiesIn source) :
    ∀ reference ∈ search.references sections, source.HasLine reference.line := by
  refine search.forall_mem_references fun part inSections block inPart _ statement made reading
    all => ?_
  have there := ExampleCode.hasLine_of_mem_statements
    ((inText part inSections).codeBlocks_liesIn block inPart) made
  exact all.readStatement fun _ => there

/-- The diagnostics of references are on lines of the text. -/
theorem Document.checkReferences_liesIn {text : String} {document : Document}
    (read : ofText text = .ok (document, none)) {index sections : SymbolTable}
    {allowed : List String} {diagnostic : Diagnostic}
    (member : diagnostic ∈ document.checkReferences index sections allowed) :
    diagnostic.span.LiesIn (Source.ofString text) := by
  obtain ⟨reference, found, rfl⟩ := List.mem_map.mp member
  unfold unresolved at found
  dsimp only at found
  split at found
  · cases found
  · have made := (List.mem_filter.mp found).1
    unfold references at made
    split at made
    · cases made
    · split at made
      · cases made
      · have there := ReferenceSearch.hasLine_of_mem_references _
          (fun _ inSections => section_liesIn read inSections) reference made
        exact there.liesIn_line

end LlmTxt

/-
This file lays the example code of a document out as one sequence of statements. Sections, code
blocks and statements are gone through one inside the other, but all that is read is statements, each
with its line and the kind of its section, and nothing happens between one code block and the next.

What names are bound to behind some statements is written in these statements alone: it does not hang
on the references that have been found. So each statement makes references of its own, given the
statements before it, and the references of the document are those of all statements, in order. One
that says the same on the same line as an earlier one is left out, and nothing else is.
-/

import LlmTxt.Example.Reference
import Mathlib.Data.List.Basic

namespace LlmTxt

/-! ### The sequence of statements -/

/-- A statement of example code, with its line and the kind of the section that it stands in. -/
structure ExampleStatement where
  kind : SectionKind
  line : Nat
  text : List Char
deriving DecidableEq, Repr

namespace ReferenceSearch

/-- The code blocks that are searched, each with the kind of its section. -/
def codeBlocks (search : ReferenceSearch) (sections : List Section) :
    List (SectionKind × CodeBlock) :=
  (sections.filter (·.kind ≠ .frontmatter)).flatMap fun part =>
    (part.codeBlocks.filter (Language.canonical ·.language = some search.language)).map
      fun block => (part.kind, block)

/-- The statements that are searched, in order. -/
def statements (search : ReferenceSearch) (sections : List Section) : List ExampleStatement :=
  (search.codeBlocks sections).flatMap fun found =>
    (ExampleCode.statements search found.2).map fun statement =>
      ⟨found.1, statement.1, statement.2⟩

theorem mem_codeBlocks_iff {search : ReferenceSearch} {sections : List Section}
    {found : SectionKind × CodeBlock} :
    found ∈ search.codeBlocks sections ↔
      ∃ part ∈ sections, part.kind = found.1 ∧ part.kind ≠ .frontmatter ∧
        found.2 ∈ part.codeBlocks ∧ Language.canonical found.2.language = some search.language := by
  obtain ⟨kind, block⟩ := found
  simp only [codeBlocks, List.mem_flatMap, List.mem_filter, List.mem_map, decide_eq_true_eq,
    Prod.mk.injEq]
  constructor
  · rintro ⟨part, ⟨inSections, body⟩, _, ⟨inPart, language⟩, same, rfl⟩
    exact ⟨part, inSections, same, body, inPart, language⟩
  · rintro ⟨part, inSections, same, body, inPart, language⟩
    exact ⟨part, ⟨inSections, body⟩, block, ⟨inPart, language⟩, same, rfl⟩

end ReferenceSearch

namespace ExampleStatement

/-- Reading goes on with a statement. -/
def read (search : ReferenceSearch) (reading : ReferenceReading) (statement : ExampleStatement) :
    ReferenceReading :=
  reading.readStatement search statement.kind (statement.line, statement.text)

end ExampleStatement

/-- Going through sections and code blocks is going through the statements. -/
theorem ReferenceReading.foldl_readSection (search : ReferenceSearch) (sections : List Section)
    (reading : ReferenceReading) :
    sections.foldl (readSection search) reading =
      (search.statements sections).foldl (ExampleStatement.read search) reading := by
  unfold ReferenceSearch.statements ReferenceSearch.codeBlocks
  simp only [List.foldl_flatMap, List.foldl_map, List.foldl_filter, decide_eq_true_eq]
  congr 1
  funext reading part
  unfold readSection
  rw [ite_not]
  congr 2

/-! ### What a statement does -/

namespace ExampleStatement

variable (search : ReferenceSearch)

/-- The import statement that a statement is, where imports are followed. -/
def import? (statement : ExampleStatement) : Option ImportStatement :=
  if search.followsImports then ImportStatement.ofText? statement.text else none

/-- The names that a statement binds, in order. -/
def bindings (statement : ExampleStatement) : List (List Char × List Char) :=
  ((statement.import? search).map ImportStatement.bindings).getD []

/-- The names that statements bind, in order. -/
def boundBy (statements : List ExampleStatement) : List (List Char × List Char) :=
  statements.flatMap (bindings search)

/-- The dotted names that a statement uses, written out, where some statements come before it. -/
def paths (before : List ExampleStatement) (statement : ExampleStatement) : List (List Char) :=
  match statement.import? search with
  | some found => found.imported
  | none =>
    (ExampleCode.names statement.text).map
      (ReferenceReading.qualify (boundBy search before).reverse)

/-- The references that a statement makes, where some statements come before it. -/
def references (before : List ExampleStatement) (statement : ExampleStatement) : List Reference :=
  ((statement.paths search before).filter search.isReference).map fun path =>
    ⟨String.ofList path, statement.line, statement.kind⟩

/-- The references that statements make, where others come before them. -/
def allReferences (before : List ExampleStatement) : List ExampleStatement → List Reference
  | [] => []
  | statement :: rest =>
    statement.references search before ++ allReferences (before ++ [statement]) rest

variable {search}

theorem mem_references_iff {before : List ExampleStatement} {statement : ExampleStatement}
    {reference : Reference} :
    reference ∈ statement.references search before ↔
      ∃ path ∈ statement.paths search before, search.isReference path = true ∧
        reference = ⟨String.ofList path, statement.line, statement.kind⟩ := by
  unfold references
  rw [List.mem_map]
  refine exists_congr fun path => ?_
  rw [List.mem_filter, and_assoc, eq_comm (b := reference)]

/-- A reference is made by a statement, where those before it come before it. -/
theorem mem_allReferences_iff (before : List ExampleStatement)
    {statements : List ExampleStatement} {reference : Reference} :
    reference ∈ allReferences search before statements ↔
      ∃ front statement back, statements = front ++ statement :: back ∧
        reference ∈ statement.references search (before ++ front) := by
  induction statements generalizing before with
  | nil => simp [allReferences]
  | cons first rest inductionHypothesis =>
    rw [allReferences, List.mem_append, inductionHypothesis]
    constructor
    · rintro (own | ⟨front, statement, back, rfl, later⟩)
      · exact ⟨[], first, rest, rfl, by rwa [List.append_nil]⟩
      · exact ⟨first :: front, statement, back, rfl, by rwa [List.append_assoc] at later⟩
    · rintro ⟨front, statement, back, split, made⟩
      cases front with
      | nil =>
        obtain ⟨rfl, rfl⟩ := List.cons.inj split
        exact Or.inl (by rwa [List.append_nil] at made)
      | cons _ front =>
        obtain ⟨rfl, rfl⟩ := List.cons.inj split
        exact Or.inr ⟨front, statement, back, rfl, by rwa [List.append_assoc]⟩

end ExampleStatement

/-! ### References without repetition -/

namespace Reference

/-- What tells two references apart: the text and the line. -/
def key (reference : Reference) : String × Nat :=
  (reference.text, reference.line)

/-- Adds a reference to others, unless one of them says the same on the same line. -/
def collect (known : List Reference) (reference : Reference) : List Reference :=
  if known.any (fun other => other.text == reference.text && other.line == reference.line) then
    known
  else known ++ [reference]

theorem collect_of_mem {known : List Reference} {reference : Reference}
    (member : reference.key ∈ known.map key) : collect known reference = known := by
  obtain ⟨other, inKnown, same⟩ := List.mem_map.mp member
  obtain ⟨text, line⟩ := Prod.mk.inj same
  exact if_pos (List.any_eq_true.mpr ⟨other, inKnown, by simp [text, line]⟩)

theorem collect_of_notMem {known : List Reference} {reference : Reference}
    (new : reference.key ∉ known.map key) : collect known reference = known ++ [reference] := by
  refine if_neg fun repeated => new ?_
  obtain ⟨other, inKnown, same⟩ := List.any_eq_true.mp repeated
  rw [Bool.and_eq_true, beq_iff_eq, beq_iff_eq] at same
  exact List.mem_map.mpr ⟨other, inKnown, Prod.ext same.1 same.2⟩

/-- Only references that are made are collected, in their order. -/
theorem exists_sublist_collect (known made : List Reference) :
    ∃ kept, List.Sublist kept made ∧ made.foldl collect known = known ++ kept := by
  induction made generalizing known with
  | nil => exact ⟨[], List.Sublist.refl _, (List.append_nil known).symm⟩
  | cons reference rest inductionHypothesis =>
    rw [List.foldl_cons]
    obtain ⟨kept, within, collected⟩ := inductionHypothesis (collect known reference)
    rw [collected]
    by_cases member : reference.key ∈ known.map key
    · rw [collect_of_mem member]
      exact ⟨kept, within.cons _, rfl⟩
    · rw [collect_of_notMem member, List.append_assoc]
      exact ⟨reference :: kept, within.cons_cons _, rfl⟩

/-- No two references that are collected say the same on the same line. -/
theorem nodup_collect {known : List Reference} (nodup : (known.map key).Nodup)
    (made : List Reference) : ((made.foldl collect known).map key).Nodup := by
  induction made generalizing known with
  | nil => exact nodup
  | cons reference rest inductionHypothesis =>
    refine inductionHypothesis ?_
    by_cases member : reference.key ∈ known.map key
    · rwa [collect_of_mem member]
    · rw [collect_of_notMem member, List.map_append]
      refine List.nodup_append.mpr ⟨nodup, List.pairwise_singleton _ _, ?_⟩
      intro own inKnown other last same
      rw [List.map_singleton, List.mem_singleton] at last
      exact member (last ▸ same ▸ inKnown)

/-- Nothing that is said on a line is lost. -/
theorem key_mem_collect {known made : List Reference} {found : String × Nat}
    (member : found ∈ known.map key ∨ found ∈ made.map key) :
    found ∈ (made.foldl collect known).map key := by
  induction made generalizing known with
  | nil => simpa using member
  | cons reference rest inductionHypothesis =>
    refine inductionHypothesis ?_
    rw [List.map_cons, List.mem_cons] at member
    by_cases repeated : reference.key ∈ known.map key
    · rw [collect_of_mem repeated]
      rcases member with earlier | rfl | later
      · exact Or.inl earlier
      · exact Or.inl repeated
      · exact Or.inr later
    · rw [collect_of_notMem repeated, List.map_append, List.mem_append]
      rcases member with earlier | rfl | later
      · exact Or.inl (Or.inl earlier)
      · exact Or.inl (Or.inr (List.mem_singleton_self _))
      · exact Or.inr later

end Reference

/-! ### Reading the sequence -/

namespace ReferenceReading

variable {search : ReferenceSearch}

theorem add_eq (reading : ReferenceReading) (path : List Char) (line : Nat) (kind : SectionKind) :
    (reading.add path line kind).bindings = reading.bindings ∧
      (reading.add path line kind).references.toList =
        Reference.collect reading.references.toList ⟨String.ofList path, line, kind⟩ := by
  unfold add Reference.collect
  dsimp only
  rw [Array.any_toList]
  split
  · exact ⟨rfl, rfl⟩
  · exact ⟨rfl, Array.toList_push⟩

theorem addAll_eq (reading : ReferenceReading) (paths : List (List Char)) (line : Nat)
    (kind : SectionKind) :
    (reading.addAll search paths line kind).bindings = reading.bindings ∧
      (reading.addAll search paths line kind).references.toList =
        ((paths.filter search.isReference).map fun path =>
          (⟨String.ofList path, line, kind⟩ : Reference)).foldl Reference.collect
            reading.references.toList := by
  unfold addAll
  induction paths.filter search.isReference generalizing reading with
  | nil => exact ⟨rfl, rfl⟩
  | cons path rest inductionHypothesis =>
    obtain ⟨sameBindings, collected⟩ := add_eq reading path line kind
    rw [List.foldl_cons, List.map_cons, List.foldl_cons, ← sameBindings, ← collected]
    exact inductionHypothesis _

/-- What a statement does to a reading that has come to it through some statements. -/
theorem read_eq {reading : ReferenceReading} {before : List ExampleStatement}
    (bound : reading.bindings = (ExampleStatement.boundBy search before).reverse)
    (statement : ExampleStatement) :
    (statement.read search reading).bindings =
        (ExampleStatement.boundBy search (before ++ [statement])).reverse ∧
      (statement.read search reading).references.toList =
        (statement.references search before).foldl Reference.collect
          reading.references.toList := by
  unfold ExampleStatement.read readStatement ExampleStatement.references ExampleStatement.paths
    ExampleStatement.boundBy
  rw [List.flatMap_append, List.flatMap_singleton, List.reverse_append,
    ← ExampleStatement.boundBy.eq_1, ← bound]
  unfold ExampleStatement.bindings ExampleStatement.import?
  dsimp only
  split
  · rename_i found isImport
    rw [isImport]
    exact addAll_eq { reading with
      bindings := found.bindings.reverse ++ reading.bindings } _ _ _
  · rename_i noImport
    rw [noImport]
    exact addAll_eq reading _ _ _

theorem read_all_eq {reading : ReferenceReading} {before : List ExampleStatement}
    (bound : reading.bindings = (ExampleStatement.boundBy search before).reverse)
    (statements : List ExampleStatement) :
    (statements.foldl (ExampleStatement.read search) reading).references.toList =
      (ExampleStatement.allReferences search before statements).foldl Reference.collect
        reading.references.toList := by
  induction statements generalizing before reading with
  | nil => rfl
  | cons statement rest inductionHypothesis =>
    obtain ⟨bound, collected⟩ := read_eq bound statement
    rw [List.foldl_cons, ExampleStatement.allReferences, List.foldl_append, ← collected]
    exact inductionHypothesis bound

end ReferenceReading

namespace ReferenceSearch

variable (search : ReferenceSearch) (sections : List Section)

/-- The references of a document are those of its statements, collected. -/
theorem references_eq :
    search.references sections =
      (ExampleStatement.allReferences search [] (search.statements sections)).foldl
        Reference.collect [] := by
  unfold references
  rw [ReferenceReading.foldl_readSection]
  exact ReferenceReading.read_all_eq rfl _

theorem references_sublist :
    List.Sublist (search.references sections)
      (ExampleStatement.allReferences search [] (search.statements sections)) := by
  rw [references_eq]
  obtain ⟨kept, within, collected⟩ := Reference.exists_sublist_collect []
    (ExampleStatement.allReferences search [] (search.statements sections))
  rwa [collected, List.nil_append]

theorem nodup_references : ((search.references sections).map Reference.key).Nodup := by
  rw [references_eq]
  have start : (([] : List Reference).map Reference.key).Nodup := List.nodup_nil
  exact Reference.nodup_collect start _

variable {search sections}

/-- A text on a line is that of a reference if and only if a statement there makes one with it. -/
theorem key_mem_references_iff {text : String} {line : Nat} :
    (text, line) ∈ (search.references sections).map Reference.key ↔
      ∃ before statement after, search.statements sections = before ++ statement :: after ∧
        statement.line = line ∧
        ∃ path ∈ statement.paths search before, search.isReference path = true ∧
          text = String.ofList path := by
  constructor
  · intro member
    obtain ⟨reference, found, same⟩ := List.mem_map.mp member
    obtain ⟨before, statement, after, split, made⟩ := (ExampleStatement.mem_allReferences_iff []).mp
      ((search.references_sublist sections).subset found)
    obtain ⟨path, used, isReference, rfl⟩ := ExampleStatement.mem_references_iff.mp made
    cases same
    exact ⟨before, statement, after, split, rfl, path, used, isReference, rfl⟩
  · rintro ⟨before, statement, after, split, rfl, path, used, isReference, rfl⟩
    rw [references_eq]
    have made : ⟨String.ofList path, statement.line, statement.kind⟩ ∈
        statement.references search before :=
      ExampleStatement.mem_references_iff.mpr ⟨path, used, isReference, rfl⟩
    have among := (ExampleStatement.mem_allReferences_iff []).mpr
      ⟨before, statement, after, split, made⟩
    exact Reference.key_mem_collect (Or.inr (List.mem_map_of_mem among))

end ReferenceSearch

end LlmTxt

/-
This file says where the references that are returned stand. Each begins with the import name of the
package, is not allowed, and is on a line between the fences of a code block in the language of the
search. The references are in the order of their lines, and none says the same on the same line as
another.

A statement keeps the number of the line on which it begins through all that is done to the code:
blanking keeps the line feeds, prompts are taken off line by line, and an import that goes on over
lines takes them along. So the statements of a code block are on increasing lines of its code. That
these lie between the fences needs a word where there is no code: a code block without lines is read
as one empty line, which has the number of the closing fence, but an empty line uses no names.
-/

import LlmTxt.Example.Resolution
import LlmTxt.Proofs.Document.Code
import LlmTxt.Proofs.Example.Allowed
import LlmTxt.Proofs.Example.Known
import LlmTxt.Proofs.Example.Places
import LlmTxt.Proofs.Example.Statements

namespace LlmTxt

open Text

/-! ### Code blocks without code -/

namespace ExampleCode

theorem text_of_mem_statements {search : ReferenceSearch} {block : CodeBlock}
    (empty : block.code = "") {statement : Nat × List Char}
    (member : statement ∈ statements search block) : statement.2 = [] := by
  unfold statements at member
  rw [empty] at member
  dsimp only at member
  split at member
  · rw [show statementsFrom none block.firstCodeLine
      ((splitAt '\n' (Noise.sanitize "".toList search.language)).map withoutPrompt) =
        [(block.firstCodeLine, [])] from rfl] at member
    rw [List.mem_singleton.mp member]
  · rw [show numbered block.firstCodeLine (splitAt '\n' (Noise.sanitize "".toList search.language)) =
        [(block.firstCodeLine, [])] from rfl] at member
    rw [List.mem_singleton.mp member]

end ExampleCode

theorem ExampleStatement.paths_of_text_eq_nil {search : ReferenceSearch}
    {statement : ExampleStatement} (empty : statement.text = []) (before : List ExampleStatement) :
    statement.paths search before = [] := by
  have noImport : statement.import? search = none := by
    unfold import?
    rw [empty]
    exact ite_self none
  unfold paths
  rw [noImport, empty]
  rfl

/-- The code of a code block of a document ends before the line of its last fence, if there is
any. -/
theorem Block.code_ends {source : Source} {front back : List Line} {block : Block}
    (cut : source.lines = front ++ (block.lines ++ back)) {code : CodeBlock}
    (member : code ∈ block.part.codeBlocks) :
    code.code = "" ∨
      code.firstCodeLine + (splitAt '\n' code.code.toList).length ≤ code.span.last := by
  obtain ⟨opener, _, closer, _, inner, innerMembers, lengths, text, span⟩ :=
    exists_codeLines cut member
  cases inner with
  | nil => exact Or.inl text
  | cons line rest =>
    right
    rw [text, Body.length_splitAt_code innerMembers, CodeBlock.firstCodeLine, span]
    rw [List.length_cons] at lengths ⊢
    dsimp only
    omega

/-! ### The order of statements and references -/

namespace ReferenceSearch

variable {search : ReferenceSearch} {sections : List Section}

theorem codeBlocks_sublist (search : ReferenceSearch) (sections : List Section) :
    List.Sublist ((search.codeBlocks sections).map (·.2)) (sections.flatMap (·.codeBlocks)) := by
  unfold codeBlocks
  induction sections with
  | nil => exact List.Sublist.refl _
  | cons part rest inductionHypothesis =>
    rw [List.filter_cons, List.flatMap_cons]
    split
    · rw [List.flatMap_cons, List.map_append, List.map_map]
      refine List.Sublist.append ?_ inductionHypothesis
      exact (List.map_id _).symm ▸ List.filter_sublist
    · exact inductionHypothesis.trans (List.sublist_append_right _ _)

/-- Where code blocks stand apart in their order, the statements in them are on increasing lines. -/
theorem pairwise_statements
    (apart : (sections.flatMap (·.codeBlocks)).Pairwise
      fun earlier later => earlier.span.last < later.span.first)
    (fits : ∀ found ∈ search.codeBlocks sections,
      found.2.span.first + (splitAt '\n' found.2.code.toList).length ≤ found.2.span.last) :
    (search.statements sections).Pairwise fun earlier later => earlier.line < later.line := by
  unfold statements
  refine List.pairwise_flatMap.mpr ⟨fun found _ => ?_, ?_⟩
  · rw [List.pairwise_map]
    have increasing := (List.pairwise_lt_range' 1).sublist
      (ExampleCode.numbers_statements search found.2)
    exact List.pairwise_map.mp increasing
  · have inOrder := List.pairwise_map.mp (apart.sublist (search.codeBlocks_sublist sections))
    refine inOrder.imp_of_mem fun {earlier later} inSearch _ before statement inEarlier other
      inLater => ?_
    obtain ⟨own, inOwn, rfl⟩ := List.mem_map.mp inEarlier
    obtain ⟨next, inNext, rfl⟩ := List.mem_map.mp inLater
    have room := fits earlier inSearch
    have range := ExampleCode.number_of_mem_statements inOwn
    have further := ExampleCode.number_of_mem_statements inNext
    unfold CodeBlock.firstCodeLine at range further
    dsimp only
    omega

end ReferenceSearch

theorem ExampleStatement.pairwise_allReferences {search : ReferenceSearch}
    {statements : List ExampleStatement}
    (increasing : statements.Pairwise fun earlier later => earlier.line < later.line)
    (before : List ExampleStatement) :
    (allReferences search before statements).Pairwise
      fun earlier later => earlier.line ≤ later.line := by
  induction statements generalizing before with
  | nil => exact List.Pairwise.nil
  | cons statement rest inductionHypothesis =>
    obtain ⟨first, others⟩ := List.pairwise_cons.mp increasing
    have ofOwn : ∀ reference ∈ statement.references search before,
        reference.line = statement.line := by
      intro reference member
      obtain ⟨_, _, _, rfl⟩ := mem_references_iff.mp member
      rfl
    rw [allReferences]
    refine List.pairwise_append.mpr ⟨?_, inductionHypothesis others _, ?_⟩
    · refine List.pairwise_iff_forall_sublist.mpr fun {earlier later} within => ?_
      have own := within.subset
      rw [ofOwn earlier (own (by simp)), ofOwn later (own (by simp))]
    · intro reference own later inRest
      obtain ⟨front, other, back, rfl, made⟩ := (mem_allReferences_iff _).mp inRest
      obtain ⟨_, _, _, rfl⟩ := mem_references_iff.mp made
      rw [ofOwn reference own]
      exact Nat.le_of_lt (first other (by simp))

/-! ### References between fences -/

/-- A reference is what a search of a document for a package may return: a dotted name that begins
with the import name of the package and with no other allowed name, on a line between the fences of
a code block in the language of the examples. -/
structure Reference.IsPlaced (document : Document) (package : String) (language : Option String)
    (allowed : List String) (reference : Reference) : Prop where
  isRooted : lower (Name.firstSegment reference.text.toList) =
    ReferenceSearch.importName package.toList
  notAllowed : ∀ name ∈ allowed,
    ReferenceSearch.beginsWith reference.text.toList name.toList = true →
      lower name.toList = ReferenceSearch.importName package.toList
  betweenFences : ∃ part ∈ document.sections, part.kind = reference.kind ∧
    part.kind ≠ .frontmatter ∧ ∃ block ∈ part.codeBlocks, block.IsAmong part.lines ∧
      Language.canonical block.language =
        some ((Language.canonical language).getD ReferenceSearch.defaultLanguage) ∧
      block.span.first < reference.line ∧ reference.line < block.span.last

/-- A dotted name that counts as a reference begins as it should, and is not allowed. -/
theorem ReferenceSearch.isReference_ofPackage_iff {package : String} {language : Option String}
    {allowed : List String} {path : List Char} :
    (ofPackage package language allowed).isReference path = true ↔
      lower (Name.firstSegment path) = importName package.toList ∧
        ∀ name ∈ allowed, beginsWith path name.toList = true →
          lower name.toList = importName package.toList := by
  unfold isReference
  rw [Bool.and_eq_true, Bool.not_eq_true', ← Bool.not_eq_true, isAllowed_ofPackage_iff]
  refine and_congr beq_iff_eq ?_
  push Not
  exact forall₂_congr fun name _ => not_imp_not

/-- A statement that says something stands between the fences of a code block in the language of the
search. -/
theorem ReferenceSearch.betweenFences_of_mem_statements {text : String} {document : Document}
    (read : Document.ofText text = .ok (document, none)) {search : ReferenceSearch}
    {statement : ExampleStatement} (member : statement ∈ search.statements document.sections)
    (filled : statement.text ≠ []) :
    ∃ part ∈ document.sections, part.kind = statement.kind ∧ part.kind ≠ .frontmatter ∧
      ∃ block ∈ part.codeBlocks, block.IsAmong part.lines ∧
        Language.canonical block.language = some search.language ∧
        block.span.first < statement.line ∧ statement.line < block.span.last := by
  obtain ⟨⟨kind, block⟩, inSearch, inBlock⟩ := List.mem_flatMap.mp member
  obtain ⟨own, inStatements, rfl⟩ := List.mem_map.mp inBlock
  obtain ⟨part, inSections, sameKind, body, inPart, sameLanguage⟩ :=
    ReferenceSearch.mem_codeBlocks_iff.mp inSearch
  obtain ⟨front, back, whole, cut, complete, rfl⟩ := Document.exists_block read inSections body
  have range := ExampleCode.number_of_mem_statements inStatements
  have ends := (Block.code_ends cut inPart).resolve_left fun empty =>
    filled (ExampleCode.text_of_mem_statements empty inStatements)
  refine ⟨whole.part, inSections, sameKind, body, block, inPart,
    (Block.keepsCode cut complete).among block inPart, sameLanguage, ?_,
    Nat.lt_of_lt_of_le range.2 ends⟩
  unfold CodeBlock.firstCodeLine at range
  exact range.1

/-- References are returned for a document as they should be: each is well placed, no two say the same
on one line, and their lines do not decrease. -/
structure Document.ArePlaced (document : Document) (package : String) (language : Option String)
    (allowed : List String) (references : List Reference) : Prop where
  each : ∀ reference ∈ references, reference.IsPlaced document package language allowed
  distinct : (references.map fun reference => (reference.text, reference.line)).Nodup
  ordered : references.Pairwise fun earlier later => earlier.line ≤ later.line

/-- The references that a search returns for a document are well placed, whatever the package, the
language and the names that are allowed. -/
theorem references_are_placed {text : String} {document : Document} {fatal : Option FatalDefect}
    (read : Document.ofText text = .ok (document, fatal)) (package : String)
    (language : Option String) (allowed : List String) :
    document.ArePlaced package language allowed
      ((ReferenceSearch.ofPackage package language allowed).references document.sections) := by
  cases fatal with
  | some defect =>
    rw [(Document.ofText_eq_defect read).2]
    exact ⟨nofun, List.nodup_nil, List.Pairwise.nil⟩
  | none =>
    generalize searchFor : ReferenceSearch.ofPackage package language allowed = search
    refine ⟨fun reference member => ?_, search.nodup_references _, ?_⟩
    · obtain ⟨before, statement, after, split, made⟩ :=
        (ExampleStatement.mem_allReferences_iff []).mp
          ((search.references_sublist _).subset member)
      obtain ⟨path, used, isReference, rfl⟩ := ExampleStatement.mem_references_iff.mp made
      have searched : search.language =
          (Language.canonical language).getD ReferenceSearch.defaultLanguage :=
        congrArg ReferenceSearch.language searchFor.symm
      rw [← searchFor] at isReference
      obtain ⟨rooted, notAllowed⟩ := ReferenceSearch.isReference_ofPackage_iff.mp isReference
      have among : statement ∈ search.statements document.sections := by
        rw [split]
        simp
      have filled : statement.text ≠ [] := by
        intro empty
        rw [ExampleStatement.paths_of_text_eq_nil empty] at used
        cases used
      have fences := ReferenceSearch.betweenFences_of_mem_statements read among filled
      rw [searched] at fences
      exact ⟨by rwa [String.toList_ofList], by rwa [String.toList_ofList], fences⟩
    · refine List.Pairwise.sublist (search.references_sublist _) ?_
      refine ExampleStatement.pairwise_allReferences ?_ []
      refine ReferenceSearch.pairwise_statements (Document.pairwise_codeBlocks read) ?_
      intro found inSearch
      obtain ⟨part, inSections, _, _, inPart, _⟩ := ReferenceSearch.mem_codeBlocks_iff.mp inSearch
      exact ((Document.section_liesIn read inSections).codeBlocks_liesIn found.2 inPart).code_fits

/-- Two sections with code: an import that goes on over a prompt, with a name that is used twice on
the line behind it, and code behind a string over two lines. -/
def sessionText : String :=
  "## A\n~~~ pycon\n>>> from K.a import (b,\n... c)\nb.d(b.d, k.os)\n~~~\n" ++
    "## B\n~~~ py\n\"\"\"k.x\n\"\"\" + k.e\n~~~\n"

theorem references_are_placed_of_session :
    ∃ document, Document.ofText sessionText = .ok (document, none) ∧
      ((ReferenceSearch.ofPackage "K" none ["k", "k.os"]).references document.sections).map
          (fun reference => (reference.text, reference.line)) =
        [("K.a.b", 3), ("K.a.c", 3), ("K.a.b.d", 5), ("k.e", 10)] ∧
      document.ArePlaced "K" none ["k", "k.os"]
        ((ReferenceSearch.ofPackage "K" none ["k", "k.os"]).references document.sections) := by
  obtain ⟨document, read, found⟩ : ∃ document, Document.ofText sessionText = .ok (document, none) ∧
      ((ReferenceSearch.ofPackage "K" none ["k", "k.os"]).references document.sections).map
          (fun reference => (reference.text, reference.line)) =
        [("K.a.b", 3), ("K.a.c", 3), ("K.a.b.d", 5), ("k.e", 10)] :=
    ⟨_, rfl, by decide +kernel⟩
  exact ⟨document, read, found, references_are_placed read "K" none ["k", "k.os"]⟩

end LlmTxt

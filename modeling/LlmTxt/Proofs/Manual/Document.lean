/-
This file reads the text of a manual. Its lines are found again, since no line of it holds a line
break; the frontmatter ends where it is written to end; and the lines behind are the passages of the
manual. So the document that is read has the sections that the manual is written in: each passage
has become a block of the document, and the blocks of the modules stand in a row.
-/

import LlmTxt.Proofs.Document.Places
import LlmTxt.Proofs.Manual.Passages

namespace LlmTxt

/-! ### Lines that end with a line feed -/

theorem rawLines_append_lineFeed {line : List Char}
    (unbroken : ∀ character ∈ line, isLineBreak character = false) (rest : List Char) :
    rawLines (line ++ '\n' :: rest) = ⟨line, ['\n']⟩ :: rawLines rest := by
  induction line with
  | nil =>
    rw [List.nil_append, rawLines]
    · rfl
    · rintro _ ⟨⟩
  | cons character more inductionHypothesis =>
    have own := unbroken character List.mem_cons_self
    rw [List.cons_append, rawLines, own,
      inductionHypothesis fun other later => unbroken other (List.mem_cons_of_mem _ later)]
    · rfl
    · rintro _ rfl
      cases own

theorem rawLines_flatMap {lines : List (List Char)}
    (unbroken : ∀ line ∈ lines, ∀ character ∈ line, isLineBreak character = false) :
    rawLines (lines.flatMap fun line => line ++ ['\n']) =
      lines.map fun line => ⟨line, ['\n']⟩ := by
  induction lines with
  | nil => rfl
  | cons line rest inductionHypothesis =>
    rw [List.flatMap_cons, List.append_assoc, List.singleton_append,
      rawLines_append_lineFeed (unbroken line List.mem_cons_self),
      inductionHypothesis fun other later => unbroken other (List.mem_cons_of_mem _ later),
      List.map_cons]

namespace Manual

/-! ### Numbered lines -/

theorem map_characters_numbered (number offset : Nat) (lines : List (List Char)) :
    (numbered number offset lines).map Line.characters = lines := by
  induction lines generalizing number offset with
  | nil => rfl
  | cons line rest inductionHypothesis =>
    exact congrArg (line :: ·) (inductionHypothesis _ _)

theorem exists_numbered_append (number offset : Nat) (front back : List (List Char)) :
    ∃ behind, numbered number offset (front ++ back) = numbered number offset front ++ behind ∧
      behind.map Line.characters = back := by
  induction front generalizing number offset with
  | nil => exact ⟨_, rfl, map_characters_numbered number offset back⟩
  | cons line rest inductionHypothesis =>
    obtain ⟨behind, split, said⟩ := inductionHypothesis (number + 1)
      (offset + utf8Length line + utf8Length ['\n'])
    exact ⟨behind, congrArg (_ :: ·) split, said⟩

/-! ### No line of a manual is broken -/

/-- No line break stands in a line. -/
def Unbroken (line : List Char) : Prop :=
  ∀ character ∈ line, isLineBreak character = false

theorem unbroken_of_all {line : List Char}
    (all : (line.all fun character => !isLineBreak character) = true) : Unbroken line := by
  intro character member
  simpa using List.all_eq_true.mp all character member

theorem Unbroken.append {front back : List Char} (first : Unbroken front) (second : Unbroken back) :
    Unbroken (front ++ back) := by
  intro character member
  rcases List.mem_append.mp member with inFront | inBack
  · exact first character inFront
  · exact second character inBack

theorem unbroken_path {name : List Char} (path : Name.isPath name = true) : Unbroken name :=
  fun _ member => (mem_written path none (List.mem_append_left _ member)).2

theorem unbroken_written {name : List Char} (path : Name.isPath name = true)
    (signature : Option Signature) : Unbroken (written name signature) :=
  fun _ member => (mem_written path signature member).2

theorem Object.isPath_name {object : Object} {symbol : Symbol} (member : symbol ∈ object.symbols) :
    Name.isPath symbol.name = true := by
  rcases List.mem_cons.mp member with rfl | inMethods
  · exact Name.isPath_of_isIdentifier object.itself.identifier
  · obtain ⟨method, _, rfl⟩ := List.mem_map.mp inMethods
    exact Name.isPath_of_isIdentifier_dot object.itself.identifier
      (Name.isPath_of_isIdentifier method.identifier)

theorem Module.isPath_name {module : Module} {symbol : Symbol} (member : symbol ∈ module.symbols) :
    Name.isPath symbol.name = true := by
  obtain ⟨object, _, inObject⟩ := List.mem_flatMap.mp member
  exact Object.isPath_name inObject

theorem unbroken_indexLines (module : Module) : ∀ line ∈ module.indexLines, Unbroken line := by
  intro line member
  rcases List.mem_cons.mp member with rfl | later
  · exact ((unbroken_of_all (by decide)).append (unbroken_path module.path)).append
      (unbroken_of_all (by decide))
  · obtain ⟨category, inCategories, made⟩ := List.mem_filterMap.mp later
    split at made
    · cases made
    · cases made
      have label : Unbroken category.2 := by
        have all : categories.all (fun category =>
            category.2.all fun character => !isLineBreak character) = true := by decide
        exact unbroken_of_all (List.all_eq_true.mp all category inCategories)
      refine (((unbroken_of_all (by decide)).append label).append
        (unbroken_of_all (by decide))).append
          ((Text.forall_mem_intercalate_iff (unbroken_of_all (by decide))).mpr ?_)
      intro piece inPieces
      obtain ⟨symbol, inKind, rfl⟩ := List.mem_map.mp inPieces
      have path : Name.isPath symbol.name = true :=
        Module.isPath_name (List.mem_filter.mp inKind).1
      have coded : Unbroken (['\x60'] ++ (written symbol.name symbol.signature ++ ['\x60'])) :=
        (unbroken_of_all (by decide)).append
          ((unbroken_written path symbol.signature).append (unbroken_of_all (by decide)))
      exact coded

theorem unbroken_signs (level : Nat) {title : List Char} (unbroken : Unbroken title) :
    Unbroken (List.replicate level '#' ++ ' ' :: title) := by
  have space : Unbroken ([' '] ++ title) := (unbroken_of_all (by decide)).append unbroken
  refine Unbroken.append ?_ space
  intro character member
  rw [List.eq_of_mem_replicate member]
  rfl

theorem unbroken_objectLines (object : Object) : ∀ line ∈ object.lines, Unbroken line := by
  obtain ⟨word, isLead⟩ := object.exists_isLead
  have lead {lead word : List Char} {kind : SymbolKind} (isLead : IsLead lead word kind) :
      Unbroken lead := fun _ member => (isLead.mem member).2
  intro line member
  rcases List.mem_cons.mp member with rfl | later
  · have path := Name.isPath_of_isIdentifier object.itself.identifier
    exact unbroken_signs 4 ((lead isLead).append (unbroken_written path _))
  · obtain ⟨method, _, rfl⟩ := List.mem_map.mp later
    have path := Name.isPath_of_isIdentifier method.identifier
    exact unbroken_signs 5 ((lead isLead_method).append (unbroken_written path _))

variable (manual : Manual)

theorem unbroken_importLine {taken : List Char × List Char} (member : taken ∈ manual.imports) :
    Unbroken (importLine taken) := by
  obtain ⟨module, _, moduleName, object, _, objectName⟩ := manual.imports_known taken member
  have name : Unbroken taken.1 := moduleName ▸ unbroken_path module.path
  have identifier : Unbroken taken.2 := by
    rw [objectName]
    exact unbroken_path (Name.isPath_of_isIdentifier object.itself.identifier)
  exact (unbroken_of_all (by decide)).append
    (name.append ((unbroken_of_all (by decide)).append identifier))

theorem unbroken_exampleLines : ∀ line ∈ manual.exampleLines, Unbroken line := by
  intro line member
  rcases List.mem_cons.mp member with rfl | later
  · exact unbroken_of_all (by decide)
  · rcases List.mem_append.mp later with inImports | last
    · obtain ⟨taken, known, rfl⟩ := List.mem_map.mp inImports
      exact manual.unbroken_importLine known
    · rw [List.mem_singleton.mp last]
      exact unbroken_of_all (by decide)

theorem unbroken_passage {kind : SectionKind} {level : Nat} {title : List Char}
    {moduleName : Option String} {lines : List (List Char)} (heading : Unbroken title)
    (each : ∀ line ∈ lines, Unbroken line) :
    ∀ line ∈ (manual.passage kind level title moduleName lines).lines, Unbroken line := by
  intro line member
  rcases List.mem_cons.mp member with rfl | inBody
  · exact unbroken_signs level heading
  · rcases List.mem_append.mp inBody with own | blank
    · exact each line own
    · rw [List.eq_of_mem_replicate blank]
      rintro character ⟨⟩

theorem unbroken_passages : ∀ passage ∈ manual.passages, ∀ line ∈ passage.lines, Unbroken line := by
  intro passage member
  rcases List.mem_append.mp member with inOpening | behind
  · simp only [opening, indexPassage, List.mem_cons, List.not_mem_nil, or_false] at inOpening
    rcases inOpening with rfl | rfl | rfl | rfl
    · refine manual.unbroken_passage (unbroken_of_all (by decide)) fun line inLines => ?_
      rw [List.mem_singleton.mp inLines]
      exact manual.concepts.unbroken
    · refine manual.unbroken_passage (unbroken_of_all (by decide)) fun line inLines => ?_
      rw [List.mem_singleton.mp inLines]
      exact manual.pitfalls.unbroken
    · refine manual.unbroken_passage (unbroken_of_all (by decide)) fun line inLines => ?_
      obtain ⟨module, _, inModule⟩ := List.mem_flatMap.mp inLines
      exact unbroken_indexLines module line inModule
    · exact manual.unbroken_passage (unbroken_of_all (by decide)) (by rintro line ⟨⟩)
  · rcases List.mem_append.mp behind with inModules | last
    · obtain ⟨module, _, rfl⟩ := List.mem_map.mp inModules
      refine manual.unbroken_passage ((unbroken_of_all (by decide)).append
        (unbroken_path module.path)) fun line inLines => ?_
      obtain ⟨object, _, inObject⟩ := List.mem_flatMap.mp inLines
      exact unbroken_objectLines object line inObject
    · rw [List.mem_singleton.mp last]
      exact manual.unbroken_passage (unbroken_of_all (by decide)) manual.unbroken_exampleLines

/-- No line of a manual holds a line break. -/
theorem unbroken_lines : ∀ line ∈ manual.lines, Unbroken line := by
  have dashed : Unbroken dashes := unbroken_of_all (by decide)
  intro line member
  rcases List.mem_cons.mp member with rfl | later
  · exact dashed
  · rcases List.mem_append.mp later with inFront | behind
    · exact manual.front.unbroken line inFront
    · rcases List.mem_cons.mp behind with rfl | inBody
      · exact dashed
      · rw [manual.bodyLines_eq] at inBody
        rcases List.mem_append.mp inBody with blank | inPassages
        · rw [List.eq_of_mem_replicate blank]
          rintro character ⟨⟩
        · obtain ⟨passage, known, inPassage⟩ := List.mem_flatMap.mp inPassages
          exact manual.unbroken_passages passage known line inPassage

/-! ### The document -/

theorem lines_text : (Source.ofString manual.text).lines = numbered 1 0 manual.lines := by
  have noMark : Source.ofString manual.text =
      ⟨manual.lines.flatMap fun line => line ++ ['\n']⟩ := by
    unfold Source.ofString text
    rw [String.toList_ofList]
    rfl
  rw [noMark, Source.lines, rawLines_flatMap manual.unbroken_lines]
  rfl

/-- The text of a manual is read as a document whose sections are its frontmatter and its passages,
one behind the other. -/
theorem ofText_text {frontmatter : Frontmatter} (loaded : manual.front.read = .ok frontmatter) :
    ∃ (document : Document) (blocks : List Block),
      Document.ofText manual.text = .ok (document, none) ∧
      blocks.map Block.passage = manual.passages ∧
      document.frontmatter = some frontmatter ∧
      document.sections =
        frontmatterSection (numbered 2 4 manual.front.lines) (manual.front.lines.length + 2) ::
          blocks.map Block.part := by
  obtain ⟨behind, split, said⟩ :=
    exists_numbered_append 2 4 (manual.front.lines ++ [dashes]) manual.bodyLines
  rw [List.append_assoc, List.singleton_append] at split
  have ends : frontmatterEnd none
      (numbered 2 4 (manual.front.lines ++ dashes :: manual.bodyLines)) =
        .closed (numbered 2 4 manual.front.lines) (manual.front.lines.length + 2) behind := by
    rw [split, frontmatterEnd_append manual.front.closed, List.nil_append]
  obtain ⟨document, blocks, read, same, front, sections⟩ :=
    Document.readBody_passages (some frontmatter)
      #[frontmatterSection (numbered 2 4 manual.front.lines) (manual.front.lines.length + 2)]
      (numbered 1 0 manual.lines).length (said.trans manual.bodyLines_eq) manual.areRead_passages
  refine ⟨document, blocks, ?_, same, front, sections⟩
  have first : numbered 1 0 manual.lines =
      ⟨1, 0, dashes⟩ :: numbered 2 4 (manual.front.lines ++ dashes :: manual.bodyLines) := rfl
  have ofLines : Document.ofLines (numbered 1 0 manual.lines) = .ok (.ok document) := by
    rw [first] at read ⊢
    unfold Document.ofLines
    dsimp only
    rw [if_pos (by decide : Frontmatter.isDelimiter dashes = true), ends]
    dsimp only
    rw [show Frontmatter.ofLines (numbered 2 4 manual.front.lines)
      (manual.front.lines.length + 2) = .ok frontmatter from loaded]
    exact congrArg Except.ok read
  unfold Document.ofText
  dsimp only
  rw [manual.lines_text, ofLines]
  rfl

end Manual

/-! ### The sections of the document -/

namespace Manual

/-- The blocks that the passages of a manual become. -/
structure Blocks (manual : Manual) where
  concepts : Block
  pitfalls : Block
  index : Block
  container : Block
  modules : List Block
  examples : Block
  concepts_eq : concepts.passage =
    manual.passage .coreConcepts 2 "Core Concepts".toList none [manual.concepts.text]
  pitfalls_eq : pitfalls.passage =
    manual.passage .pitfalls 2 "Pitfalls".toList none [manual.pitfalls.text]
  index_eq : index.passage = manual.indexPassage
  container_eq : container.passage =
    manual.passage .moduleSections 2 "Module Sections".toList none []
  modules_eq : modules.map Block.passage = manual.modules.map manual.modulePassage
  examples_eq : examples.passage = manual.examplePassage

namespace Blocks

variable {manual : Manual} (blocks : manual.Blocks)

/-- The blocks before the example. -/
def front : List Block :=
  blocks.concepts :: blocks.pitfalls :: blocks.index :: blocks.container :: blocks.modules

/-- The blocks in the order of the document. -/
def all : List Block :=
  blocks.front ++ [blocks.examples]

theorem exists_all_eq {read : List Block} (same : read.map Block.passage = manual.passages) :
    ∃ blocks : manual.Blocks, read = blocks.all := by
  obtain ⟨concepts, afterConcepts, rfl, concepts_eq, behindConcepts⟩ := List.map_eq_cons_iff.mp same
  obtain ⟨pitfalls, afterPitfalls, rfl, pitfalls_eq, behindPitfalls⟩ :=
    List.map_eq_cons_iff.mp behindConcepts
  obtain ⟨index, afterIndex, rfl, index_eq, behindIndex⟩ := List.map_eq_cons_iff.mp behindPitfalls
  obtain ⟨container, afterContainer, rfl, container_eq, behindContainer⟩ :=
    List.map_eq_cons_iff.mp behindIndex
  have behind : afterContainer.map Block.passage =
      manual.modules.map manual.modulePassage ++ [manual.examplePassage] := behindContainer
  obtain ⟨modules, last, rfl, modules_eq, last_eq⟩ := List.map_eq_append_iff.mp behind
  obtain ⟨examples, rfl, examples_eq⟩ := List.map_eq_singleton_iff.mp last_eq
  exact ⟨⟨concepts, pitfalls, index, container, modules, examples, concepts_eq, pitfalls_eq,
    index_eq, container_eq, modules_eq, examples_eq⟩, rfl⟩

/-! ### Kinds and names -/

theorem concepts_kind : blocks.concepts.kind = .coreConcepts :=
  congrArg Passage.kind blocks.concepts_eq

theorem pitfalls_kind : blocks.pitfalls.kind = .pitfalls :=
  congrArg Passage.kind blocks.pitfalls_eq

theorem index_kind : blocks.index.kind = .index :=
  congrArg Passage.kind blocks.index_eq

theorem container_kind : blocks.container.kind = .moduleSections :=
  congrArg Passage.kind blocks.container_eq

theorem examples_kind : blocks.examples.kind = .globalExamples :=
  congrArg Passage.kind blocks.examples_eq

/-- The blocks of the modules are read from the passages of the modules, one for one. -/
theorem forall₂_modules :
    List.Forall₂ (fun block module => block.passage = manual.modulePassage module)
      blocks.modules manual.modules := by
  refine List.forall₂_map_left_iff.mp (List.forall₂_map_right_iff.mp ?_)
  rw [List.forall₂_eq_eq_eq]
  exact blocks.modules_eq

variable {blocks} in
theorem exists_module {block : Block} (member : block ∈ blocks.modules) :
    ∃ module ∈ manual.modules, block.passage = manual.modulePassage module := by
  have passage : block.passage ∈ manual.modules.map manual.modulePassage :=
    blocks.modules_eq ▸ List.mem_map_of_mem member
  obtain ⟨module, known, same⟩ := List.mem_map.mp passage
  exact ⟨module, known, same.symm⟩

variable {blocks} in
theorem module_kind {block : Block} (member : block ∈ blocks.modules) :
    block.kind = .moduleSection := by
  obtain ⟨module, _, same⟩ := exists_module member
  exact kind_module same

variable {blocks} in
/-- There are fences only in the example. -/
theorem plain_of_mem_front {block : Block} (member : block ∈ blocks.front) :
    ∀ line ∈ block.body, Fence.ofLine? line.characters = none := by
  rcases List.mem_cons.mp member with rfl | member
  · refine plain_of_passage blocks.concepts_eq fun line inLines => ?_
    rw [List.mem_singleton.mp inLines]
    exact manual.concepts.noFence
  rcases List.mem_cons.mp member with rfl | member
  · refine plain_of_passage blocks.pitfalls_eq fun line inLines => ?_
    rw [List.mem_singleton.mp inLines]
    exact manual.pitfalls.noFence
  rcases List.mem_cons.mp member with rfl | member
  · exact plain_index blocks.index_eq
  rcases List.mem_cons.mp member with rfl | member
  · exact plain_of_passage blocks.container_eq nofun
  · obtain ⟨module, _, same⟩ := exists_module member
    exact plain_module same

/-! ### Looking for sections -/

variable {document : Document} {lines : List Line} {closing : Nat}
  (sections : document.sections = frontmatterSection lines closing :: blocks.all.map Block.part)

include sections

theorem first?_index : document.first? .index = some blocks.index.part := by
  have concepts := blocks.concepts_kind
  have pitfalls := blocks.pitfalls_kind
  have index := blocks.index_kind
  simp [Document.first?, sections, all, front, frontmatterSection, concepts, pitfalls, index]

theorem moduleSections_eq : document.moduleSections = blocks.modules.map Block.part := by
  have concepts := blocks.concepts_kind
  have pitfalls := blocks.pitfalls_kind
  have index := blocks.index_kind
  have container := blocks.container_kind
  have examples := blocks.examples_kind
  have modules : (blocks.modules.map Block.part).filter (·.kind == .moduleSection) =
      blocks.modules.map Block.part := by
    refine List.filter_eq_self.mpr fun part member => ?_
    obtain ⟨block, inModules, rfl⟩ := List.mem_map.mp member
    rw [Block.part_kind, module_kind inModules]
    rfl
  unfold Document.moduleSections Document.sectionsOf
  rw [sections, all, front]
  simp only [List.cons_append, List.map_cons, List.map_append, List.map_nil, List.filter_cons,
    List.filter_append, List.filter_nil, modules, Block.part_kind, frontmatterSection, concepts,
    pitfalls, index, container, examples]
  exact List.append_nil _

end Blocks

end Manual

end LlmTxt

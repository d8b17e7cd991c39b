/-
This file proves the round trip: a manual that is written as a document is read back whole. The
table of the Index and that of the module sections hold the modules and symbols of the manual and
nothing else, and the check reports nothing at all, whatever the settings are, as long as the
frontmatter is one that they accept. For nothing is wrong with the sections of a manual: those that a
document should have are there, they come in the canonical order, none appears again, and each has the
shape of its kind.
-/

import LlmTxt.Proofs.Manual.Examples
import LlmTxt.Proofs.Manual.Modules
import LlmTxt.Proofs.Section.Order
import LlmTxt.Validation

namespace LlmTxt

namespace Manual

open Text

variable {manual : Manual} {block : Block}

/-! ### Shapes -/

/-- There is something in a section of prose. -/
theorem hasContent_prose {prose : Prose} {kind : SectionKind} {level : Nat} {title : List Char}
    (same : block.passage = manual.passage kind level title none [prose.text]) :
    block.part.hasContent = true := by
  obtain ⟨line, blank, split, said, _⟩ := List.map_eq_cons_iff.mp (body_of_passage same)
  have filled : isAllBlank line.text.toList = false := by
    rw [Line.text, String.toList_ofList, said, prose.filled]
  have member : line ∈ block.body := split ▸ List.mem_cons_self
  have pair : (line.number, line.text) ∈
      (Body.sourceLines block.body).map fun line => (line.number, line.text) := by
    rw [Body.map_sourceLines]
    exact List.mem_map_of_mem member
  obtain ⟨own, inLines, equal⟩ := List.mem_map.mp pair
  have text : own.text = line.text := (Prod.mk.inj equal).2
  refine List.any_eq_true.mpr ⟨own, inLines, ?_⟩
  rw [SourceLine.isBlank, text, filled]
  rfl

/-- The section of a module is named after it and declares an object. -/
theorem shapeDefects_module {module : Module} (same : block.passage = manual.modulePassage module) :
    block.part.shapeDefects = [] := by
  have named : block.part.nameDefects = [] := by
    unfold Section.nameDefects
    dsimp only
    rw [Block.part_moduleName, moduleName_module same, Option.getD_some, module.isEmpty_name,
      String.toList_ofList, module.path]
    rfl
  have declares : block.part.headings.any (·.level == Section.objectLevel) = true := by
    obtain ⟨object, rest, objects⟩ := List.exists_cons_of_ne_nil module.nonempty
    have headings := headings_module same
    rw [objects, List.flatMap_cons, Object.headings, List.cons_append] at headings
    obtain ⟨heading, _, split, own, _⟩ := List.map_eq_cons_iff.mp headings
    refine List.any_eq_true.mpr ⟨heading, split ▸ List.mem_cons_self, ?_⟩
    exact beq_iff_eq.mpr (Prod.mk.inj own).1
  unfold Section.shapeDefects Section.objectDefects
  rw [Block.part_kind, kind_module same]
  dsimp only
  rw [named, if_pos declares]
  rfl

/-- Every section of a manual has the shape of its kind. -/
theorem shapeDefects_eq_nil {blocks : manual.Blocks} (member : block ∈ blocks.all) :
    block.part.shapeDefects = [] := by
  rcases List.mem_append.mp member with inFront | last
  · rcases List.mem_cons.mp inFront with rfl | inFront
    · unfold Section.shapeDefects
      rw [Block.part_kind, blocks.concepts_kind]
      exact if_pos (hasContent_prose blocks.concepts_eq)
    rcases List.mem_cons.mp inFront with rfl | inFront
    · unfold Section.shapeDefects
      rw [Block.part_kind, blocks.pitfalls_kind]
      exact if_pos (hasContent_prose blocks.pitfalls_eq)
    rcases List.mem_cons.mp inFront with rfl | inFront
    · unfold Section.shapeDefects
      rw [Block.part_kind, blocks.index_kind]
      dsimp only
      rw [(ofSection_index blocks.index_eq).2]
      rfl
    rcases List.mem_cons.mp inFront with rfl | inModules
    · unfold Section.shapeDefects
      rw [Block.part_kind, blocks.container_kind]
    · obtain ⟨module, _, same⟩ := Blocks.exists_module inModules
      exact shapeDefects_module same
  · rw [List.mem_singleton.mp last]
    obtain ⟨span, single⟩ := codeBlocks_examples blocks.examples_eq
    unfold Section.shapeDefects
    rw [Block.part_kind, blocks.examples_kind]
    dsimp only
    rw [single]
    rfl

/-! ### Presence, order and repetition -/

/-- The section of a module takes the name of the module. -/
theorem slot?_module {module : Module} (same : block.passage = manual.modulePassage module) :
    block.part.slot? = some (.module (String.ofList module.name)) := by
  unfold Section.slot?
  rw [Block.part_kind, Block.part_moduleName, kind_module same, moduleName_module same]
  dsimp only
  rw [module.isEmpty_name]
  rfl

namespace Blocks

variable (blocks : manual.Blocks)

theorem map_kind_all : blocks.all.map (fun block => block.part.kind) =
    ([.coreConcepts, .pitfalls, .index, .moduleSections] : List SectionKind) ++
      (List.replicate blocks.modules.length SectionKind.moduleSection ++
        [SectionKind.globalExamples]) := by
  have modules : blocks.modules.map (fun block => block.part.kind) =
      List.replicate blocks.modules.length .moduleSection := by
    refine List.eq_replicate_iff.mpr ⟨List.length_map _, fun kind member => ?_⟩
    obtain ⟨block, inModules, rfl⟩ := List.mem_map.mp member
    exact module_kind inModules
  rw [all, front, List.map_append, List.map_cons, List.map_cons, List.map_cons, List.map_cons,
    modules, List.map_singleton, Block.part_kind, Block.part_kind, Block.part_kind,
    Block.part_kind, Block.part_kind, blocks.concepts_kind, blocks.pitfalls_kind,
    blocks.index_kind, blocks.container_kind, blocks.examples_kind]
  rfl

/-- What the sections of a manual take that may stand only once. -/
theorem filterMap_slot?_all : blocks.all.filterMap (fun block => block.part.slot?) =
    ([.kind .coreConcepts, .kind .pitfalls, .kind .index, .kind .moduleSections] :
        List Section.Slot) ++
      (manual.modules.map (fun module => Section.Slot.module (String.ofList module.name)) ++
        [Section.Slot.kind .globalExamples]) := by
  have single {block : Block} {kind : SectionKind} (same : block.kind = kind)
      (singleton : kind.isSingleton = true) : block.part.slot? = some (.kind kind) := by
    unfold Section.slot?
    rw [Block.part_kind, same]
    exact if_pos singleton
  have modules : blocks.modules.filterMap (fun block => block.part.slot?) =
      manual.modules.map fun module => .module (String.ofList module.name) := by
    have pairs := blocks.forall₂_modules
    generalize blocks.modules = own at pairs ⊢
    generalize manual.modules = named at pairs ⊢
    induction pairs with
    | nil => rfl
    | cons same _ inductionHypothesis =>
      rw [List.filterMap_cons, slot?_module same, inductionHypothesis]
      rfl
  have concepts := single blocks.concepts_kind rfl
  have pitfalls := single blocks.pitfalls_kind rfl
  have index := single blocks.index_kind rfl
  have container := single blocks.container_kind rfl
  have examples := single blocks.examples_kind rfl
  simp only [all, front, List.filterMap_append, List.filterMap_cons, List.filterMap_nil, concepts,
    pitfalls, index, container, modules, examples]
  rfl

variable {blocks} {document : Document} {lines : List Line} {closing : Nat}
  (sections : document.sections = frontmatterSection lines closing :: blocks.all.map Block.part)

include sections

theorem first?_isSome {kind : SectionKind} (member : kind ∈ blocks.all.map (·.part.kind)) :
    (document.first? kind).isSome = true := by
  obtain ⟨block, inAll, same⟩ := List.mem_map.mp member
  refine List.find?_isSome.mpr ⟨block.part, ?_, beq_iff_eq.mpr same⟩
  rw [sections]
  exact List.mem_cons_of_mem _ (List.mem_map_of_mem inAll)

/-- No section that a document should have is missing. -/
theorem checkPresence_eq_nil : document.checkPresence = [] := by
  have found {kind : SectionKind}
      (known : kind ∈ [.coreConcepts, .pitfalls, .index, .globalExamples]) :
      (document.first? kind).isNone = false := by
    rw [← Option.not_isSome, first?_isSome sections]
    · rfl
    · rw [map_kind_all]
      simp only [List.mem_cons, List.not_mem_nil, or_false] at known
      rcases known with rfl | rfl | rfl | rfl <;> simp
  have modules : document.moduleSections.isEmpty = false := by
    have pairs := blocks.forall₂_modules.length_eq
    have filled : manual.modules.length ≠ 0 := by
      simpa using manual.nonempty
    rw [moduleSections_eq blocks sections, List.isEmpty_eq_false_iff]
    intro empty
    rw [List.map_eq_nil_iff.mp empty] at pairs
    exact filled pairs.symm
  have recommended : (Document.recommendedKinds.filter fun kind =>
      (document.first? kind).isNone) = [] := by
    refine List.filter_eq_nil_iff.mpr fun kind member => ?_
    have known : kind ∈ [.coreConcepts, .pitfalls, .index, .globalExamples] := by
      revert kind
      decide
    rw [found known]
    decide
  unfold Document.checkPresence
  dsimp only
  rw [found (by decide), modules, recommended]
  rfl

/-- The sections come in the canonical order. -/
theorem checkOrder_eq_nil (strict : Bool) : Section.checkOrder strict document.sections = [] := by
  have kinds : document.sections.map (·.kind) =
      ([.frontmatter, .coreConcepts, .pitfalls, .index, .moduleSections] : List SectionKind) ++
        (List.replicate blocks.modules.length SectionKind.moduleSection ++
          [SectionKind.globalExamples]) := by
    rw [sections, List.map_cons, List.map_map]
    exact congrArg (List.cons _) blocks.map_kind_all
  have ordered : (document.sections.map (·.kind)).Pairwise fun earlier later =>
      later.precedes earlier = false := by
    rw [kinds]
    refine List.pairwise_append.mpr ⟨by decide, List.pairwise_append.mpr ⟨?_, ?_, ?_⟩, ?_⟩
    · exact List.pairwise_replicate.mpr (Or.inr rfl)
    · exact List.pairwise_singleton _ _
    · intro earlier inModules later last
      rw [List.eq_of_mem_replicate inModules, List.mem_singleton.mp last]
      rfl
    · intro earlier inFront later behind
      have kind : later = .moduleSection ∨ later = .globalExamples := by
        rcases List.mem_append.mp behind with inModules | last
        · exact Or.inl (List.eq_of_mem_replicate inModules)
        · exact Or.inr (List.mem_singleton.mp last)
      revert earlier
      rcases kind with rfl | rfl <;> decide
  have nothing : Section.outOfOrder none document.sections = [] :=
    Section.outOfOrder_none_eq_nil_iff.mpr (List.pairwise_map.mp ordered)
  unfold Section.checkOrder
  rw [nothing, List.map_nil]

/-- No section appears again. -/
theorem checkRepetition_eq_nil : Section.checkRepetition document.sections = [] := by
  have slots : document.sections.filterMap Section.slot? =
      blocks.all.filterMap fun block => block.part.slot? := by
    rw [sections, List.filterMap_cons_none rfl, List.filterMap_map]
    rfl
  have names : (manual.modules.map fun module =>
      Section.Slot.module (String.ofList module.name)).Nodup := by
    have injective : Function.Injective Section.Slot.module :=
      fun _ _ same => Section.Slot.module.inj same
    have own := manual.nodup_moduleNames.map injective
    rwa [List.map_map] at own
  have distinct : (document.sections.filterMap Section.slot?).Nodup := by
    rw [slots, filterMap_slot?_all]
    simp [List.nodup_append, names]
  unfold Section.checkRepetition
  rw [Section.repeated_nil_eq_nil_iff.mpr distinct, List.map_nil]

/-- Nothing is wrong with the sections of a manual. -/
theorem checkSections_eq_nil (strict : Bool) : document.checkSections strict = [] := by
  have shapes : document.sections.flatMap Section.checkShape = [] := by
    refine List.flatMap_eq_nil_iff.mpr fun part member => ?_
    rw [sections] at member
    rcases List.mem_cons.mp member with rfl | inBlocks
    · rfl
    · obtain ⟨block, inAll, rfl⟩ := List.mem_map.mp inBlocks
      rw [Section.checkShape, shapeDefects_eq_nil inAll]
      rfl
  unfold Document.checkSections
  rw [checkPresence_eq_nil sections, checkOrder_eq_nil sections, checkRepetition_eq_nil sections,
    shapes]
  rfl

end Blocks

end Manual

/-! ### The round trip -/

namespace Manual

variable {manual : Manual} {blocks : manual.Blocks} {document : Document} {lines : List Line}
  {closing : Nat}
  (sections : document.sections = frontmatterSection lines closing :: blocks.all.map Block.part)

include sections

theorem declared_indexTable : document.indexTable.declared = manual.listed := by
  unfold Document.indexTable
  rw [Blocks.first?_index blocks sections]
  exact declared_ofOutline blocks.index_eq

/-- The stages of a check find nothing in a manual whose frontmatter is accepted. -/
theorem findings_eq {table : SymbolTable} (read : document.moduleTable = .ok table)
    (inTable : table.declared = manual.documented) {settings : Settings}
    (front : Frontmatter.check document.frontmatter settings.acceptedLanguages = []) :
    document.findings settings = .ok ⟨[[], [], [], [], []]⟩ := by
  have consistent : document.indexTable.IsConsistent table :=
    isConsistent (declared_indexTable sections) inTable
  have resolved : document.indexTable.resolve table = [] :=
    List.map_eq_nil_iff.mpr consistent.mismatches_eq_nil
  unfold Document.findings
  rw [read, Blocks.checkDeclarations_eq sections]
  show Except.ok _ = Except.ok _
  rw [front, Blocks.checkSections_eq_nil sections, resolved,
    checkReferences_eq_nil sections inTable]
  rfl

end Manual

/-- A manual is read back as it is, from the text in which it is written: what the Index lists is
what the manual lists, what the module sections declare is what the manual declares, and nothing is
reported. -/
theorem manual_round_trip (manual : Manual) (settings : Settings) (source : Option String)
    (accepted : manual.front.IsAccepted settings.acceptedLanguages) :
    ∃ (document : Document) (sections : SymbolTable),
      Document.ofText manual.text = .ok (document, none) ∧
      document.moduleTable = .ok sections ∧
      document.indexTable.declared = manual.listed ∧
      sections.declared = manual.documented ∧
      validate manual.text settings source = .ok ⟨source, [], true, false⟩ := by
  unfold Manual.Front.IsAccepted at accepted
  cases loaded : manual.front.read with
  | error failure =>
    rw [loaded] at accepted
    cases accepted
  | ok frontmatter =>
    rw [loaded] at accepted
    obtain ⟨document, read, ofText, passages, front, sections⟩ := manual.ofText_text loaded
    obtain ⟨blocks, rfl⟩ := Manual.Blocks.exists_all_eq passages
    obtain ⟨table, built, inTable⟩ := Manual.Blocks.exists_moduleTable sections
    have checked : Frontmatter.check document.frontmatter settings.acceptedLanguages = [] := by
      rw [front]
      exact Except.ok.inj accepted
    refine ⟨document, table, ofText, built, Manual.declared_indexTable sections, inTable, ?_⟩
    have nothing : Report.ofFindings ⟨[[], [], [], [], []]⟩ source = ⟨source, [], true, false⟩ := by
      have merged : Findings.merged ⟨[[], [], [], [], []]⟩ = [] := List.mergeSort_nil
      rw [Report.ofFindings, merged]
      rfl
    unfold validate
    rw [ofText]
    dsimp only
    rw [Manual.findings_eq sections built inTable checked]
    dsimp only
    rw [nothing]

/-! ### A manual of a toolkit -/

namespace Manual.Toolkit

def front : Front where
  lines := ["package: toolkit".toList, "version: 1.2".toList, "language: python".toList,
    "summary: Tools for everyone".toList]
  unbroken := by
    have all : ["package: toolkit".toList, "version: 1.2".toList, "language: python".toList,
        "summary: Tools for everyone".toList].all (fun line =>
          line.all fun character => !isLineBreak character) = true := by decide
    exact fun line member => unbroken_of_all (List.all_eq_true.mp all line member)
  closed := by decide

/-- A signature with commas, a default and a type. -/
def signature : Signature where
  inside := "name: str, size=(1, 2)".toList
  plain := by
    have all : "name: str, size=(1, 2)".toList.all (fun character =>
        character != '\x60' && !isLineBreak character) = true := by decide
    intro character member
    simpa using List.all_eq_true.mp all character member

def tool : Object :=
  .class_ ⟨"Tool".toList, some signature, by decide⟩
    [⟨"run".toList, some signature, by decide⟩, ⟨"stop".toList, none, by decide⟩]

def fault : Object :=
  .exception ⟨"Fault".toList, none, by decide⟩ []

def start : Object :=
  .function ⟨"start".toList, some signature, by decide⟩

def core : Module where
  name := "toolkit.core".toList
  objects := [tool, start]
  path := by decide
  begins := by decide
  ends := by decide
  nonempty := by decide
  objects_nodup := by decide
  methods_nodup := by decide

def faults : Module where
  name := "toolkit.faults".toList
  objects := [fault]
  path := by decide
  begins := by decide
  ends := by decide
  nonempty := by decide
  objects_nodup := by decide
  methods_nodup := by decide

def prose : Prose where
  text := "A tool is started once.".toList
  unbroken := unbroken_of_all (by decide)
  filled := by decide
  noFence := by decide
  noHeading := by decide

def manual : Manual where
  front := front
  concepts := prose
  pitfalls := prose
  modules := [core, faults]
  imports := [(core.name, "Tool".toList), (faults.name, "Fault".toList)]
  gap := 1
  nonempty := by decide
  modules_nodup := by decide
  imports_known := by
    intro taken member
    rcases List.mem_pair.mp member with rfl | rfl
    · exact ⟨core, List.mem_cons_self, rfl, tool, List.mem_cons_self, rfl⟩
    · exact ⟨faults, List.mem_cons_of_mem _ (List.mem_singleton_self _), rfl, fault,
        List.mem_singleton_self _, rfl⟩

end Manual.Toolkit

theorem toolkit_round_trip :
    Manual.Toolkit.manual.front.IsAccepted Settings.default.acceptedLanguages ∧
      ∃ (document : Document) (sections : SymbolTable),
        Document.ofText Manual.Toolkit.manual.text = .ok (document, none) ∧
        document.moduleTable = .ok sections ∧
        document.indexTable.declared = Manual.Toolkit.manual.listed ∧
        sections.declared = Manual.Toolkit.manual.documented ∧
        validate Manual.Toolkit.manual.text .default none = .ok ⟨none, [], true, false⟩ := by
  have accepted : Manual.Toolkit.manual.front.IsAccepted Settings.default.acceptedLanguages := by
    unfold Manual.Front.IsAccepted
    decide +kernel
  exact ⟨accepted, manual_round_trip Manual.Toolkit.manual .default none accepted⟩

end LlmTxt

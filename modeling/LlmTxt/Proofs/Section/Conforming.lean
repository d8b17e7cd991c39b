/-
This file says when nothing is wrong with the sections of a document. What is demanded of them can be
told without the checks: which kinds have to stand there and how often, in which order, and what each
section has to hold. The checks for presence, order, repetition and shape go through the same sections
one after the other, and each takes over a part of what is demanded: that a kind stands exactly once
is said by presence and repetition together, and that the modules have names of their own by shape and
repetition together.
-/

import LlmTxt.Proofs.Name
import LlmTxt.Proofs.Section.Order

namespace LlmTxt

open Text

namespace Section

/-! ### The shape of a section -/

/-- A section names its module by a dotted name: identifiers with single dots between them. -/
def NamesModule (part : Section) : Prop :=
  ∃ name, part.moduleName = some name ∧
    ∀ identifier ∈ Name.segments name.toList, Name.isIdentifier identifier = true

/-- A section has the shape of its kind. -/
structure HasShape (part : Section) : Prop where
  known : part.kind ≠ .unknown
  index : part.kind = .index → (Outline.ofSection part).problems = []
  named : part.kind = .moduleSection → part.NamesModule
  declares : part.kind = .moduleSection → ∃ heading ∈ part.headings, heading.level = 4
  prose : part.kind = .coreConcepts ∨ part.kind = .pitfalls →
    ∃ line ∈ part.lines, ∃ character ∈ line.text.toList, isBlank character = false
  examples : part.kind = .globalExamples → part.codeBlocks ≠ []

variable {part : Section} {sections : List Section}

theorem nameDefects_eq_nil_iff : part.nameDefects = [] ↔ part.NamesModule := by
  unfold nameDefects NamesModule
  dsimp only
  cases part.moduleName with
  | none => simp
  | some name =>
    simp only [Option.getD_some, Option.some.injEq, exists_eq_left', ← Name.isPath_iff_segments]
    split
    · rename_i empty
      rw [String.isEmpty_iff.mp empty]
      exact ⟨nofun, nofun⟩
    · split
      · rename_i path
        exact iff_of_true rfl path
      · rename_i noPath
        exact iff_of_false (List.cons_ne_nil _ _) noPath

theorem objectDefects_eq_nil_iff :
    part.objectDefects = [] ↔ ∃ heading ∈ part.headings, heading.level = 4 := by
  have declares : part.headings.any (·.level == objectLevel) = true ↔
      ∃ heading ∈ part.headings, heading.level = 4 := by
    simp [objectLevel]
  rw [objectDefects, ← declares]
  simp

theorem hasContent_iff :
    part.hasContent = true ↔
      ∃ line ∈ part.lines, ∃ character ∈ line.text.toList, isBlank character = false := by
  simp [hasContent, SourceLine.isBlank, isAllBlank]

/-- Nothing is wrong with the shape of a section exactly if it has the shape of its kind. -/
theorem shapeDefects_eq_nil_iff : part.shapeDefects = [] ↔ part.HasShape := by
  have shape : part.HasShape ↔ part.kind ≠ .unknown ∧
      (part.kind = .index → (Outline.ofSection part).problems = []) ∧
      (part.kind = .moduleSection → part.nameDefects = []) ∧
      (part.kind = .moduleSection → part.objectDefects = []) ∧
      (part.kind = .coreConcepts ∨ part.kind = .pitfalls → part.hasContent = true) ∧
      (part.kind = .globalExamples → part.codeBlocks ≠ []) := by
    rw [nameDefects_eq_nil_iff, objectDefects_eq_nil_iff, hasContent_iff]
    exact ⟨fun ⟨known, index, named, declares, prose, examples⟩ =>
        ⟨known, index, named, declares, prose, examples⟩,
      fun ⟨known, index, named, declares, prose, examples⟩ =>
        ⟨known, index, named, declares, prose, examples⟩⟩
  rw [shape]
  unfold shapeDefects
  cases part.kind <;> simp

/-! ### Order and repetition -/

theorem checkOrder_eq_nil_iff (strict : Bool) :
    checkOrder strict sections = [] ↔
      (sections.filterMap (·.kind.rank)).Pairwise (· ≤ ·) := by
  unfold checkOrder
  rw [List.map_eq_nil_iff, outOfOrder_none_eq_nil_iff, List.pairwise_filterMap]
  refine List.Pairwise.iff fun earlier later => ?_
  rw [SectionKind.precedes_eq_false_iff]
  exact forall₂_comm

theorem slot?_eq_kind_iff {kind : SectionKind} :
    part.slot? = some (.kind kind) ↔ part.kind = kind ∧ kind.isSingleton = true := by
  unfold slot?
  split
  · rename_i singleton
    rw [Option.some.injEq, Slot.kind.injEq]
    exact ⟨fun same => ⟨same, same ▸ singleton⟩, And.left⟩
  · rename_i other
    constructor
    · intro taken
      split at taken
      · split at taken <;> cases taken
      · cases taken
    · rintro ⟨rfl, singleton⟩
      exact absurd singleton other

/-- What a module section takes is its name. -/
theorem slot?_of_moduleSection (same : part.kind = .moduleSection) :
    part.slot? = part.moduleName.bind fun name =>
      if name.isEmpty then none else some (.module name) := by
  unfold slot?
  rw [same, if_neg (by decide)]
  cases part.moduleName <;> rfl

theorem slot?_eq_module_iff {name : String} :
    part.slot? = some (.module name) ↔
      part.kind = .moduleSection ∧ part.moduleName = some name ∧ name ≠ "" := by
  by_cases same : part.kind = .moduleSection
  · rw [slot?_of_moduleSection same, Option.bind_eq_some_iff]
    simp only [same, true_and, Option.ite_none_left_eq_some, Option.some.injEq, Slot.module.injEq,
      String.isEmpty_iff]
    constructor
    · rintro ⟨own, named, filled, rfl⟩
      exact ⟨named, filled⟩
    · rintro ⟨named, filled⟩
      exact ⟨name, named, filled, rfl⟩
  · refine ⟨fun taken => ?_, fun ⟨own, _⟩ => absurd own same⟩
    unfold slot? at taken
    split at taken
    · cases taken
    · split at taken
      · rename_i own _
        exact absurd own same
      · cases taken

/-- Nothing appears again exactly if each kind that should stand once does so, and each module that
is named. -/
theorem checkRepetition_eq_nil_iff :
    checkRepetition sections = [] ↔
      (∀ kind : SectionKind, kind.isSingleton = true →
        (sections.filter (·.kind == kind)).length ≤ 1) ∧
      ∀ name ≠ "",
        ((sections.filter (·.kind == .moduleSection)).map (·.moduleName)).count (some name) ≤ 1 := by
  have ofKind (kind : SectionKind) (singleton : kind.isSingleton = true) :
      (sections.filterMap slot?).count (.kind kind) =
        (sections.filter (·.kind == kind)).length := by
    rw [List.count_filterMap, ← List.countP_eq_length_filter]
    refine List.countP_congr fun part _ => ?_
    rw [beq_iff_eq, beq_iff_eq, slot?_eq_kind_iff, and_iff_left singleton]
  have ofModule (name : String) (filled : name ≠ "") :
      (sections.filterMap slot?).count (.module name) =
        ((sections.filter (·.kind == .moduleSection)).map (·.moduleName)).count (some name) := by
    rw [List.count_filterMap, List.count, List.countP_map, List.countP_filter]
    refine List.countP_congr fun part _ => ?_
    rw [beq_iff_eq, slot?_eq_module_iff, and_iff_left filled]
    simp [and_comm]
  unfold checkRepetition
  rw [List.map_eq_nil_iff, repeated_nil_eq_nil_iff, List.nodup_iff_count_le_one]
  constructor
  · intro once
    exact ⟨fun kind singleton => ofKind kind singleton ▸ once (.kind kind),
      fun name filled => ofModule name filled ▸ once (.module name)⟩
  · rintro ⟨kinds, modules⟩ slot
    rcases Nat.eq_zero_or_pos ((sections.filterMap slot?).count slot) with absent | present
    · omega
    · obtain ⟨part, _, taken⟩ := List.mem_filterMap.mp (List.count_pos_iff.mp present)
      cases slot with
      | kind kind =>
        have singleton := (slot?_eq_kind_iff.mp taken).2
        rw [ofKind kind singleton]
        exact kinds kind singleton
      | module name =>
        have filled := (slot?_eq_module_iff.mp taken).2.2
        rw [ofModule name filled]
        exact modules name filled

end Section

/-! ### The sections of a document -/

namespace Document

/-- The kinds of which a document should have exactly one section. -/
def expectedKinds : List SectionKind :=
  [.coreConcepts, .pitfalls, .index, .globalExamples]

/-- The sections of a document are as they should be. -/
structure Conforms (document : Document) : Prop where
  once : ∀ kind ∈ expectedKinds, (document.sectionsOf kind).length = 1
  container : (document.sectionsOf .moduleSections).length ≤ 1
  modules : document.moduleSections ≠ []
  distinct : (document.moduleSections.map (·.moduleName)).Nodup
  ordered : (document.sections.filterMap (·.kind.rank)).Pairwise (· ≤ ·)
  shaped : ∀ part ∈ document.sections, part.HasShape

variable {document : Document}

theorem isNone_first?_iff {kind : SectionKind} :
    (document.first? kind).isNone = true ↔ (document.sectionsOf kind).length = 0 := by
  rw [Option.isNone_iff_eq_none, first?, List.find?_eq_none, List.length_eq_zero_iff, sectionsOf,
    List.filter_eq_nil_iff]

/-- Nothing is missing exactly if there is a section of each expected kind, and of a module. -/
theorem checkPresence_eq_nil_iff :
    document.checkPresence = [] ↔
      (∀ kind ∈ expectedKinds, (document.sectionsOf kind).length ≠ 0) ∧
        document.moduleSections ≠ [] := by
  unfold checkPresence recommendedKinds expectedKinds
  simp only [List.append_eq_nil_iff, ite_eq_right_iff, List.map_eq_nil_iff,
    List.filter_eq_nil_iff, isNone_first?_iff, List.isEmpty_iff, List.cons_ne_nil, imp_false,
    List.forall_mem_cons, List.not_mem_nil, false_imp_iff, implies_true, and_true]
  constructor
  · rintro ⟨⟨index, modules⟩, concepts, pitfalls, examples⟩
    exact ⟨⟨concepts, pitfalls, index, examples⟩, modules⟩
  · rintro ⟨⟨concepts, pitfalls, index, examples⟩, modules⟩
    exact ⟨⟨index, modules⟩, concepts, pitfalls, examples⟩

theorem isSingleton_iff {kind : SectionKind} :
    kind.isSingleton = true ↔ kind ∈ expectedKinds ∨ kind = .moduleSections := by
  cases kind <;> decide

/-- A kind is there exactly once if it is not missing and does not appear again. -/
theorem present_and_single_iff :
    ((∀ kind ∈ expectedKinds, (document.sectionsOf kind).length ≠ 0) ∧
        ∀ kind : SectionKind, kind.isSingleton = true → (document.sectionsOf kind).length ≤ 1) ↔
      (∀ kind ∈ expectedKinds, (document.sectionsOf kind).length = 1) ∧
        (document.sectionsOf .moduleSections).length ≤ 1 := by
  constructor
  · rintro ⟨present, single⟩
    refine ⟨fun kind member => ?_, single .moduleSections rfl⟩
    have atMost := single kind (isSingleton_iff.mpr (Or.inl member))
    have atLeast := Nat.pos_of_ne_zero (present kind member)
    exact Nat.le_antisymm atMost atLeast
  · rintro ⟨once, container⟩
    refine ⟨fun kind member => ?_, fun kind singleton => ?_⟩
    · rw [once kind member]
      exact Nat.one_ne_zero
    · rcases isSingleton_iff.mp singleton with member | rfl
      · exact (once kind member).le
      · exact container

/-- Modules that are named by dotted names have names of their own if none is named twice. -/
theorem nodup_moduleNames_iff (shaped : ∀ part ∈ document.sections, part.HasShape) :
    (document.moduleSections.map (·.moduleName)).Nodup ↔
      ∀ name ≠ "", (document.moduleSections.map (·.moduleName)).count (some name) ≤ 1 := by
  rw [List.nodup_iff_count_le_one]
  refine ⟨fun once name _ => once (some name), fun once own => ?_⟩
  rcases Nat.eq_zero_or_pos ((document.moduleSections.map (·.moduleName)).count own) with
    absent | present
  · omega
  · obtain ⟨part, member, rfl⟩ := List.mem_map.mp (List.count_pos_iff.mp present)
    obtain ⟨inSections, isModule⟩ := List.mem_filter.mp member
    obtain ⟨name, same, identifiers⟩ := (shaped part inSections).named (eq_of_beq isModule)
    rw [same]
    refine once name ?_
    rintro rfl
    exact absurd (identifiers [] List.mem_cons_self) nofun

/-- Nothing is wrong with the sections of a document, whether or not the order is strict, exactly if
they are as they should be. -/
theorem checkSections_eq_nil_iff_conforms (document : Document) (strict : Bool) :
    document.checkSections strict = [] ↔ document.Conforms := by
  have shapes : document.sections.flatMap Section.checkShape = [] ↔
      ∀ part ∈ document.sections, part.HasShape := by
    simp only [List.flatMap_eq_nil_iff, Section.checkShape, List.map_eq_nil_iff,
      Section.shapeDefects_eq_nil_iff]
  unfold checkSections
  rw [List.append_eq_nil_iff, List.append_eq_nil_iff, List.append_eq_nil_iff,
    checkPresence_eq_nil_iff, Section.checkOrder_eq_nil_iff, Section.checkRepetition_eq_nil_iff,
    shapes]
  constructor
  · rintro ⟨⟨⟨⟨present, modules⟩, ordered⟩, single, names⟩, shaped⟩
    obtain ⟨once, container⟩ := present_and_single_iff.mp ⟨present, single⟩
    exact ⟨once, container, modules, (nodup_moduleNames_iff shaped).mpr names, ordered, shaped⟩
  · rintro ⟨once, container, modules, distinct, ordered, shaped⟩
    obtain ⟨present, single⟩ := present_and_single_iff.mpr ⟨once, container⟩
    exact ⟨⟨⟨⟨present, modules⟩, ordered⟩, single, (nodup_moduleNames_iff shaped).mp distinct⟩,
      shaped⟩

end Document

end LlmTxt

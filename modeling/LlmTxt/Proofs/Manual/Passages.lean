/-
This file reads a manual that is written as a document back into its sections. Each section is a
passage: its heading is taken for the kind that it is written for, and no line under it begins
another section or leaves a code block open.
-/

import LlmTxt.Proofs.Manual.Headings

namespace LlmTxt.Manual

open Text

variable (manual : Manual)

/-! ### The passages of a manual -/

/-- A section as a passage. -/
def passage (kind : SectionKind) (level : Nat) (title : List Char) (moduleName : Option String)
    (lines : List (List Char)) : Passage where
  kind := kind
  title := title
  level := level
  moduleName := moduleName
  heading := List.replicate level '#' ++ ' ' :: title
  body := lines ++ List.replicate manual.gap []

/-- The section of a module as a passage. -/
def modulePassage (module : Module) : Passage :=
  manual.passage .moduleSection 3 ("Module: ".toList ++ module.name)
    (some (String.ofList module.name)) (module.objects.flatMap (·.lines))

def indexPassage : Passage :=
  manual.passage .index 2 "Index".toList none (manual.modules.flatMap (·.indexLines))

def examplePassage : Passage :=
  manual.passage .globalExamples 2 "Global Examples".toList none manual.exampleLines

/-- The sections before those of the modules as passages. -/
def opening : List Passage := [
  manual.passage .coreConcepts 2 "Core Concepts".toList none [manual.concepts.text],
  manual.passage .pitfalls 2 "Pitfalls".toList none [manual.pitfalls.text],
  manual.indexPassage,
  manual.passage .moduleSections 2 "Module Sections".toList none []]

/-- The sections of a manual as passages. -/
def passages : List Passage :=
  manual.opening ++ (manual.modules.map manual.modulePassage ++ [manual.examplePassage])

theorem bodyLines_eq :
    manual.bodyLines = List.replicate manual.gap [] ++ manual.passages.flatMap Passage.lines := by
  have modules : (manual.modules.map manual.modulePassage).flatMap Passage.lines =
      manual.modules.flatMap (fun module =>
        manual.sectionLines ("### Module: ".toList ++ module.name)
          (module.objects.flatMap (·.lines))) := by
    rw [List.flatMap_map]
    rfl
  unfold bodyLines passages
  rw [List.flatMap_append, List.flatMap_append, modules]
  simp only [opening, indexPassage, examplePassage, passage, Passage.lines, sectionLines,
    List.flatMap_cons, List.flatMap_nil, List.append_nil, List.append_assoc, List.cons_append]
  rfl

/-! ### Lines under a heading -/

/-- A line is no fence and no heading that may begin a section. -/
def IsInner (line : List Char) : Prop :=
  Fence.ofLine? line = none ∧
    ∀ level title, Heading.ofLine? line = some (level, title) → 4 ≤ level

theorem isInner_of_noHeading {line : List Char} (noFence : Fence.ofLine? line = none)
    (noHeading : Heading.ofLine? line = none) : IsInner line := by
  refine ⟨noFence, fun level title heading => ?_⟩
  rw [noHeading] at heading
  cases heading

theorem isInner_of_dropIndent {line : List Char} {first : Char} {rest : List Char}
    (indented : dropIndent line = first :: rest) (noMarker : Fence.isMarker first = false)
    (noSign : first ≠ '#') : IsInner line :=
  isInner_of_noHeading (Fence.ofLine?_eq_none indented noMarker)
    (Heading.ofLine?_eq_none indented noSign)

theorem isInner_nil : IsInner [] :=
  isInner_of_noHeading rfl rfl

theorem isInner_title {level : Nat} (deep : 4 ≤ level) (bound : level ≤ 6) {title : List Char}
    (isTitle : Heading.IsTitle title) : IsInner (List.replicate level '#' ++ ' ' :: title) := by
  refine ⟨?_, fun other text heading => ?_⟩
  · exact Heading.noFence_signs (by omega) _
  · rw [Heading.ofLine?_title (by omega) bound isTitle] at heading
    cases heading
    exact deep

theorem isInner_prose (prose : Prose) : IsInner prose.text :=
  isInner_of_noHeading prose.noFence prose.noHeading

theorem isInner_indexLines (module : Module) : ∀ line ∈ module.indexLines, IsInner line := by
  intro line member
  rcases List.mem_cons.mp member with rfl | later
  · exact isInner_of_dropIndent (dropIndent_cons (by decide) _) rfl (by decide)
  · obtain ⟨category, inCategories, made⟩ := List.mem_filterMap.mp later
    split at made
    · cases made
    · cases made
      exact isInner_of_dropIndent rfl rfl (by decide)

theorem isInner_objectLines (object : Object) : ∀ line ∈ object.lines, IsInner line := by
  obtain ⟨word, isLead⟩ := object.exists_isLead
  intro line member
  rcases List.mem_cons.mp member with rfl | later
  · exact isInner_title (Nat.le_refl 4) (by decide)
      (isTitle_written isLead object.itself.identifier object.itself.signature)
  · obtain ⟨method, _, rfl⟩ := List.mem_map.mp later
    exact isInner_title (Nat.le_succ 4) (by decide : 5 ≤ 6)
      (isTitle_written isLead_method method.identifier method.signature)

theorem isInner_importLine (taken : List Char × List Char) : IsInner (importLine taken) :=
  isInner_of_dropIndent (dropIndent_cons (by decide) _) rfl (by decide)

/-! ### Fences -/

theorem foldl_fenceAfter_of_plain {lines : List (List Char)}
    (plain : ∀ line ∈ lines, Fence.ofLine? line = none) (fence : Option Fence) :
    lines.foldl fenceAfter fence = fence := by
  induction lines with
  | nil => rfl
  | cons line rest inductionHypothesis =>
    have own : fenceAfter fence line = fence := by
      unfold fenceAfter
      rw [plain line List.mem_cons_self]
      cases fence <;> rfl
    rw [List.foldl_cons, own]
    exact inductionHypothesis fun other later => plain other (List.mem_cons_of_mem _ later)

/-- The code block of the example is closed. -/
theorem closed_exampleLines : manual.exampleLines.foldl fenceAfter none = none := by
  have opens : fenceAfter none "\x60\x60\x60python".toList =
      some ⟨'\x60', 3, "python".toList⟩ := by decide
  have closes : fenceAfter (some ⟨'\x60', 3, "python".toList⟩) "\x60\x60\x60".toList = none := by
    decide
  have plain : ∀ line ∈ manual.imports.map importLine, Fence.ofLine? line = none := by
    intro line member
    obtain ⟨taken, _, rfl⟩ := List.mem_map.mp member
    exact (isInner_importLine taken).1
  rw [exampleLines, List.foldl_cons, opens, List.foldl_append, foldl_fenceAfter_of_plain plain,
    List.foldl_cons, closes, List.foldl_nil]

/-! ### Reading the passages -/

section Sections

variable {kind : SectionKind} {before : Option SectionKind} {level : Nat} {title : List Char}
  {moduleName : Option String} {lines : List (List Char)}
  (positive : 1 ≤ level) (bound : level ≤ 6) (isTitle : Heading.IsTitle title)
  (opens : ∀ reading : Reading, reading.current.map (·.kind) = before →
    reading.classify level title = some (kind, moduleName))

include positive bound isTitle opens

/-- A section is read as it is written if its heading is, and if its lines begin no section and
leave no code block open. -/
theorem passage_isReadBehind
    (inner : ∀ line ∈ lines, ∀ level title, Heading.ofLine? line = some (level, title) → 4 ≤ level)
    (closed : lines.foldl fenceAfter none = none) :
    (manual.passage kind level title moduleName lines).IsReadBehind before where
  heading_fence := Heading.noFence_signs positive (' ' :: title)
  heading_eq := Heading.ofLine?_title positive bound isTitle
  opens := opens
  inner := by
    intro line member
    rcases List.mem_append.mp member with own | blank
    · exact inner line own
    · rw [List.eq_of_mem_replicate blank]
      exact isInner_nil.2
  closed := by
    show (lines ++ List.replicate manual.gap []).foldl fenceAfter none = none
    rw [List.foldl_append, closed]
    refine foldl_fenceAfter_of_plain (fun line member => ?_) none
    rw [List.eq_of_mem_replicate member]
    exact isInner_nil.1

theorem plainPassage_isReadBehind (inner : ∀ line ∈ lines, IsInner line) :
    (manual.passage kind level title moduleName lines).IsReadBehind before :=
  manual.passage_isReadBehind positive bound isTitle opens
    (fun line member => (inner line member).2)
    (foldl_fenceAfter_of_plain (fun line member => (inner line member).1) none)

end Sections

theorem classify_title (reading : Reading) {title : List Char} (noModule : moduleOf? title = none) :
    reading.classify 2 title = some (.ofTitle title, none) := by
  rw [Reading.classify, noModule]
  rfl

theorem classify_module (module : Module) {reading : Reading} (inside : reading.inModules = true) :
    reading.classify 3 ("Module: ".toList ++ module.name) =
      some (.moduleSection, some (String.ofList module.name)) := by
  rw [ModuleName.classify_of_mem module.path module.mem_titles (Or.inr ⟨rfl, inside⟩),
    ModuleName.unscored_eq_self module.begins module.ends]

/-- A heading of the second level opens a section by its title. -/
theorem titled_isReadBehind (before : Option SectionKind) {kind : SectionKind} {title : List Char}
    {lines : List (List Char)} (isTitle : Heading.IsTitle title)
    (noModule : moduleOf? title = none) (kind_eq : SectionKind.ofTitle title = kind)
    (inner : ∀ line ∈ lines, IsInner line) :
    (manual.passage kind 2 title none lines).IsReadBehind before := by
  refine manual.plainPassage_isReadBehind (by decide) (by decide) isTitle ?_ inner
  intro reading _
  rw [classify_title reading noModule, kind_eq]

theorem inModules_of_kind {reading : Reading} {kind : SectionKind}
    (current : reading.current.map (·.kind) = some kind)
    (inside : kind = .moduleSections ∨ kind = .moduleSection) : reading.inModules = true := by
  obtain ⟨part, own, rfl⟩ := Option.map_eq_some_iff.mp current
  rw [Reading.inModules, own]
  simpa using inside

theorem modulePassage_isReadBehind (module : Module) {kind : SectionKind}
    (inside : kind = .moduleSections ∨ kind = .moduleSection) :
    (manual.modulePassage module).IsReadBehind (some kind) := by
  refine manual.plainPassage_isReadBehind (by decide) (by decide) module.isTitle ?_ ?_
  · intro reading current
    exact classify_module module (inModules_of_kind current inside)
  · intro line member
    obtain ⟨object, _, inObject⟩ := List.mem_flatMap.mp member
    exact isInner_objectLines object line inObject

theorem examplePassage_isReadBehind (before : Option SectionKind) :
    manual.examplePassage.IsReadBehind before := by
  refine manual.passage_isReadBehind (by decide) (by decide)
    (Heading.isTitle_of_looks (by decide)) ?_ ?_ manual.closed_exampleLines
  · intro reading _
    rw [classify_title reading (by decide)]
    rfl
  · intro line member
    have noHeading : Heading.ofLine? line = none := by
      rcases List.mem_cons.mp member with rfl | later
      · rfl
      · rcases List.mem_append.mp later with inImports | last
        · obtain ⟨taken, _, rfl⟩ := List.mem_map.mp inImports
          exact Heading.ofLine?_eq_none (dropIndent_cons (by decide) _) (by decide)
        · rw [List.mem_singleton.mp last]
          rfl
    intro level title heading
    rw [noHeading] at heading
    cases heading

/-- Behind the container of the module sections or another module section, every module section is
read as one, and what follows them is read too. -/
theorem areRead_modulePassages (modules : List Module) {rest : List Passage} {kind : SectionKind}
    (inside : kind = .moduleSections ∨ kind = .moduleSection)
    (areRead : ∀ before, Passage.AreRead before rest) :
    Passage.AreRead (some kind) (modules.map manual.modulePassage ++ rest) := by
  induction modules generalizing kind with
  | nil => exact areRead (some kind)
  | cons module others inductionHypothesis =>
    exact ⟨manual.modulePassage_isReadBehind module inside, inductionHypothesis (Or.inr rfl)⟩

/-- A manual is read as it is written. -/
theorem areRead_passages : Passage.AreRead none manual.passages := by
  refine ⟨?_, ?_, ?_, ?_, ?_⟩
  · refine manual.titled_isReadBehind none (Heading.isTitle_of_looks (by decide)) (by decide)
      (by decide) fun line member => ?_
    rw [List.mem_singleton.mp member]
    exact isInner_prose manual.concepts
  · refine manual.titled_isReadBehind _ (Heading.isTitle_of_looks (by decide)) (by decide)
      (by decide) fun line member => ?_
    rw [List.mem_singleton.mp member]
    exact isInner_prose manual.pitfalls
  · refine manual.titled_isReadBehind _ (Heading.isTitle_of_looks (by decide)) (by decide)
      (by decide) fun line member => ?_
    obtain ⟨module, _, inModule⟩ := List.mem_flatMap.mp member
    exact isInner_indexLines module line inModule
  · refine manual.titled_isReadBehind _ (Heading.isTitle_of_looks (by decide)) (by decide)
      (by decide) fun line member => ?_
    cases member
  · refine manual.areRead_modulePassages manual.modules (Or.inl rfl) fun before => ⟨?_, trivial⟩
    exact manual.examplePassage_isReadBehind before

/-! ### Blocks that are passages -/

section Blocks

variable {manual} {block : Block} {kind : SectionKind} {level : Nat} {title : List Char}
  {moduleName : Option String} {lines : List (List Char)}
  (same : block.passage = manual.passage kind level title moduleName lines)

include same

theorem body_of_passage :
    block.body.map Line.characters = lines ++ List.replicate manual.gap [] :=
  congrArg Passage.body same

theorem plain_of_passage (plain : ∀ line ∈ lines, Fence.ofLine? line = none) :
    ∀ line ∈ block.body, Fence.ofLine? line.characters = none := by
  intro line member
  have inBody : line.characters ∈ lines ++ List.replicate manual.gap [] :=
    body_of_passage same ▸ List.mem_map_of_mem member
  rcases List.mem_append.mp inBody with own | blank
  · exact plain _ own
  · rw [List.eq_of_mem_replicate blank]
    rfl

/-- The lines of a section begin with its own, and blank lines follow. -/
theorem exists_blank_of_passage :
    ∃ own blank, block.body = own ++ blank ∧ own.map Line.characters = lines ∧
      ∀ line ∈ blank, line.characters = [] := by
  obtain ⟨own, blank, split, said, gap⟩ := List.map_eq_append_iff.mp (body_of_passage same)
  refine ⟨own, blank, split, said, fun line member => ?_⟩
  have inGap : line.characters ∈ List.replicate manual.gap [] := gap ▸ List.mem_map_of_mem member
  exact List.eq_of_mem_replicate inGap

omit same in
theorem plain_index (same : block.passage = manual.indexPassage) :
    ∀ line ∈ block.body, Fence.ofLine? line.characters = none := by
  refine plain_of_passage same fun line member => ?_
  obtain ⟨module, _, inModule⟩ := List.mem_flatMap.mp member
  exact (isInner_indexLines module line inModule).1

omit same in
theorem plain_module {module : Module} (same : block.passage = manual.modulePassage module) :
    ∀ line ∈ block.body, Fence.ofLine? line.characters = none := by
  refine plain_of_passage same fun line member => ?_
  obtain ⟨object, _, inObject⟩ := List.mem_flatMap.mp member
  exact (isInner_objectLines object line inObject).1

omit same in
theorem kind_module {module : Module} (same : block.passage = manual.modulePassage module) :
    block.kind = .moduleSection :=
  congrArg Passage.kind same

omit same in
theorem moduleName_module {module : Module} (same : block.passage = manual.modulePassage module) :
    block.moduleName = some (String.ofList module.name) :=
  congrArg Passage.moduleName same

end Blocks

end LlmTxt.Manual

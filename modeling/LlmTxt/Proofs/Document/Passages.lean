/-
This file reads a document forward. A passage is what is to become a section: a heading, the lines
under it, and what the heading is to be taken for. If each heading is taken for that behind the
passage before it, no line under a heading begins a section, and no code block stays open, then
reading the passages one behind the other gives one section for each of them.

The numbers and offsets of the lines play no part in this. So what is read is said up to them: the
blocks of the document are the passages when their lines are reduced to their characters.
-/

import LlmTxt.Proofs.Document.Blocks

namespace LlmTxt

/-- A heading with the lines under it, and the section that they are to become. -/
structure Passage where
  kind : SectionKind
  title : List Char
  level : Nat
  moduleName : Option String
  heading : List Char
  body : List (List Char)

namespace Passage

/-- The lines of a passage. -/
def lines (passage : Passage) : List (List Char) :=
  passage.heading :: passage.body

/-- A passage is read as it is meant behind a section of a kind. -/
structure IsReadBehind (before : Option SectionKind) (passage : Passage) : Prop where
  heading_fence : Fence.ofLine? passage.heading = none
  heading_eq : Heading.ofLine? passage.heading = some (passage.level, passage.title)
  opens : ∀ reading : Reading, reading.current.map (·.kind) = before →
    reading.classify passage.level passage.title = some (passage.kind, passage.moduleName)
  inner : ∀ line ∈ passage.body, ∀ level title, Heading.ofLine? line = some (level, title) →
    4 ≤ level
  closed : passage.body.foldl fenceAfter none = none

/-- Passages are read as they are meant, one behind the other. -/
def AreRead (before : Option SectionKind) : List Passage → Prop
  | [] => True
  | passage :: rest => passage.IsReadBehind before ∧ AreRead (some passage.kind) rest

end Passage

/-- What a block is apart from the places of its lines. -/
def Block.passage (block : Block) : Passage where
  kind := block.kind
  title := block.title
  level := block.level
  moduleName := block.moduleName
  heading := block.heading.characters
  body := block.body.map Line.characters

/-! ### Fences -/

theorem Body.fence_codeStep (code : Option OpenCode) (line : Line) :
    (codeStep code line).map OpenCode.fence =
      fenceAfter (code.map OpenCode.fence) line.characters := by
  cases code with
  | none =>
    unfold codeStep fenceAfter
    cases Fence.ofLine? line.characters <;> rfl
  | some block =>
    rw [Option.map_some, fenceAfter_eq]
    cases closes : block.fence.isClosedBy line.characters with
    | true =>
      rw [codeStep_closes closes]
      rfl
    | false =>
      rw [codeStep_inside closes]
      rfl

/-- The fence that is open behind some lines is found in their characters. -/
theorem Body.fence_openCode (lines : List Line) :
    (openCode lines).map OpenCode.fence = (lines.map Line.characters).foldl fenceAfter none := by
  induction lines using List.reverseRecOn with
  | nil => rfl
  | append_singleton lines line inductionHypothesis =>
    rw [openCode_concat, fence_codeStep, inductionHypothesis, List.map_append, List.foldl_append]
    rfl

/-! ### Reading one passage -/

namespace Reading

variable {given : List Section} {lines preamble : List Line} {blocks : List Block}
  {reading : Reading} {current : Option Block}

theorem classify_of_four_le {level : Nat} (deep : 4 ≤ level) (title : List Char) :
    reading.classify level title = none := by
  unfold classify
  dsimp only
  rw [if_neg (by omega), if_neg (by simp; omega), if_neg (by simp; omega)]

theorem readLine_of_inner (reading : Reading) {line : Line} (inner : ∀ level title,
    Heading.ofLine? line.characters = some (level, title) → 4 ≤ level) :
    reading.IsExtended line (reading.readLine line) := by
  rcases reading.readLine_cases line with ⟨level, title, _, _, _, _, heading, opens, _⟩ | extended
  · rw [classify_of_four_le (inner level title heading)] at opens
    cases opens
  · exact extended

/-- Lines that begin no section go to the last block. -/
theorem IsCut.readInner {block : Block}
    (cut : reading.IsCut given lines preamble blocks (some block)) {more : List Line}
    (inner : ∀ line ∈ more, ∀ level title,
      Heading.ofLine? line.characters = some (level, title) → 4 ≤ level) :
    (reading.readLines more).IsCut given (lines ++ more) preamble blocks
      (some { block with body := block.body ++ more }) := by
  induction more generalizing reading lines block with
  | nil => simpa [readLines] using cut
  | cons line rest inductionHypothesis =>
    have extended := readLine_of_inner reading (inner line List.mem_cons_self)
    have further := inductionHypothesis (cut.extendBlock extended)
      fun other later => inner other (List.mem_cons_of_mem _ later)
    simpa [readLines] using further

theorem readLine_of_opens (noCode : reading.code = none) {line : Line}
    (noFence : Fence.ofLine? line.characters = none) {level : Nat} {title : List Char}
    (heading : Heading.ofLine? line.characters = some (level, title)) {kind : SectionKind}
    {moduleName : Option String}
    (opens : reading.classify level title = some (kind, moduleName)) :
    reading.readLine line = reading.openSection line level title kind moduleName := by
  unfold readLine readProse
  rw [noCode, noFence, heading]
  dsimp only
  rw [opens]

/-- A passage becomes a block behind the blocks that are there. -/
theorem IsCut.readPassage (cut : reading.IsCut given lines preamble blocks current)
    (noCode : reading.code = none) {block : Block}
    (meant : block.passage.IsReadBehind (current.map (·.kind))) :
    (reading.readLines block.lines).IsCut given (lines ++ block.lines) preamble
        (blocks ++ current.toList) (some block) ∧
      (reading.readLines block.lines).code = none := by
  have before : reading.current.map (·.kind) = current.map (·.kind) := by
    rw [cut.current_eq, Option.map_map]
    rfl
  have begun : reading.readLine block.heading =
      reading.openSection block.heading block.level block.title block.kind block.moduleName :=
    readLine_of_opens noCode meant.heading_fence meant.heading_eq (meant.opens reading before)
  have opened : (reading.readLine block.heading).IsCut given (lines ++ [block.heading]) preamble
      (blocks ++ current.toList)
      (some ⟨block.kind, block.title, block.level, block.moduleName, block.heading, []⟩) := by
    rw [begun]
    exact cut.openSection noCode meant.heading_eq block.kind block.moduleName
  have inner : ∀ line ∈ block.body, ∀ level title,
      Heading.ofLine? line.characters = some (level, title) → 4 ≤ level :=
    fun line member => meant.inner line.characters (List.mem_map_of_mem member)
  have whole : (reading.readLines block.lines).IsCut given (lines ++ block.lines) preamble
      (blocks ++ current.toList) (some block) := by
    have filled := opened.readInner inner
    rw [List.append_assoc] at filled
    exact filled
  refine ⟨whole, ?_⟩
  have fence := Body.fence_openCode block.body
  rw [show (block.body.map Line.characters).foldl fenceAfter none = none from meant.closed] at fence
  rw [whole.code_eq]
  exact Option.map_eq_none_iff.mp fence

/-- Passages become blocks, one behind the other. -/
theorem IsCut.readPassages (cut : reading.IsCut given lines preamble blocks current)
    (noCode : reading.code = none) {added : List Block}
    (meant : Passage.AreRead (current.map (·.kind)) (added.map Block.passage)) :
    ∃ blocks' current',
      (reading.readLines (added.flatMap Block.lines)).IsCut given
        (lines ++ added.flatMap Block.lines) preamble blocks' current' ∧
      (reading.readLines (added.flatMap Block.lines)).code = none ∧
      blocks' ++ current'.toList = blocks ++ current.toList ++ added := by
  induction added generalizing reading lines blocks current with
  | nil => exact ⟨blocks, current, by simpa [readLines] using cut, noCode, by simp⟩
  | cons block rest inductionHypothesis =>
    obtain ⟨next, nextCode⟩ := cut.readPassage noCode meant.1
    obtain ⟨blocks', current', whole, code, all⟩ := inductionHypothesis next nextCode meant.2
    have joined : reading.readLines ((block :: rest).flatMap Block.lines) =
        (reading.readLines block.lines).readLines (rest.flatMap Block.lines) := by
      unfold readLines
      rw [List.flatMap_cons, List.foldl_append]
    rw [joined]
    refine ⟨blocks', current', ?_, code, ?_⟩
    · rw [List.flatMap_cons, ← List.append_assoc]
      exact whole
    · rw [all]
      simp

end Reading

/-! ### Reading a body -/

/-- Lines that say what passages say are cut into blocks that are these passages. -/
theorem exists_blocks {passages : List Passage} {lines : List Line}
    (said : lines.map Line.characters = passages.flatMap Passage.lines) :
    ∃ blocks : List Block,
      blocks.map Block.passage = passages ∧ lines = blocks.flatMap Block.lines := by
  induction passages generalizing lines with
  | nil => exact ⟨[], rfl, List.map_eq_nil_iff.mp said⟩
  | cons passage rest inductionHypothesis =>
    rw [List.flatMap_cons] at said
    obtain ⟨own, others, rfl, ownSaid, othersSaid⟩ := List.map_eq_append_iff.mp said
    obtain ⟨heading, body, rfl, headingSaid, bodySaid⟩ := List.map_eq_cons_iff.mp ownSaid
    obtain ⟨blocks, blocksSaid, rfl⟩ := inductionHypothesis othersSaid
    refine ⟨⟨passage.kind, passage.title, passage.level, passage.moduleName, heading, body⟩ ::
      blocks, ?_, rfl⟩
    rw [List.map_cons, blocksSaid, Block.passage, headingSaid, bodySaid]

/-- Blank lines before the first section leave no trace. -/
theorem Reading.readLines_of_blank (given : Array Section) {lines : List Line}
    (blank : ∀ line ∈ lines, line.characters = []) :
    (Reading.start given).readLines lines = Reading.start given := by
  induction lines with
  | nil => rfl
  | cons line rest inductionHypothesis =>
    have own : (Reading.start given).readLine line = Reading.start given := by
      unfold readLine readProse
      rw [blank line List.mem_cons_self]
      rfl
    unfold readLines at inductionHypothesis ⊢
    rw [List.foldl_cons, own, inductionHypothesis fun other later =>
      blank other (List.mem_cons_of_mem _ later)]

/-- A body that is made of passages behind blank lines is read, and its sections are those of
these passages. -/
theorem Document.readBody_passages (frontmatter : Option Frontmatter) (given : Array Section)
    (lineCount : Nat) {lines : List Line} {passages : List Passage} {gap : Nat}
    (said : lines.map Line.characters =
      List.replicate gap [] ++ passages.flatMap Passage.lines)
    (meant : Passage.AreRead none passages) :
    ∃ (document : Document) (blocks : List Block),
      readBody frontmatter given lines lineCount = .ok document ∧
      blocks.map Block.passage = passages ∧ document.frontmatter = frontmatter ∧
      document.sections = given.toList ++ blocks.map Block.part := by
  obtain ⟨blank, rest, rfl, blankSaid, restSaid⟩ := List.map_eq_append_iff.mp said
  obtain ⟨blocks, same, rfl⟩ := exists_blocks restSaid
  have noCharacters : ∀ line ∈ blank, line.characters = [] := by
    intro line member
    have inGap : line.characters ∈ List.replicate gap [] := blankSaid ▸ List.mem_map_of_mem member
    exact List.eq_of_mem_replicate inGap
  have read : (Reading.start given).readLines (blank ++ blocks.flatMap Block.lines) =
      (Reading.start given).readLines (blocks.flatMap Block.lines) := by
    have skipped := Reading.readLines_of_blank given noCharacters
    unfold Reading.readLines at skipped ⊢
    rw [List.foldl_append, skipped]
  obtain ⟨before, current, cut, noCode, all⟩ :=
    (Reading.isCut_start given).readPassages rfl (same.symm ▸ meant)
  obtain ⟨sections, _, _⟩ := cut.closeSection noCode
  unfold readBody
  dsimp only
  rw [read, noCode]
  refine ⟨_, blocks, rfl, same, rfl, ?_⟩
  rw [sections, all]
  rfl

end LlmTxt

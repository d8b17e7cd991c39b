/-
This file shows that reading a document is cutting it into blocks. A block is a heading that
begins a section, with the lines up to the next such heading, and the section is what these
lines are as body lines. The lines before the first block belong to no section.

Reading keeps a state, and the invariant of the state is this description of the lines read so
far: the sections that are there, the one that is being read, and the code block that is open
in it are those of a cut of these lines.
-/

import LlmTxt.Proofs.Document.Body

namespace LlmTxt

/-! ### Blocks -/

/-- A heading that begins a section, and the lines behind it. -/
structure Block where
  kind : SectionKind
  title : List Char
  level : Nat
  moduleName : Option String
  heading : Line
  body : List Line

namespace Block

/-- The lines of a block. -/
def lines (block : Block) : List Line :=
  block.heading :: block.body

/-- The section that a block makes, while it is being read. -/
def opened (block : Block) : OpenSection where
  kind := block.kind
  title := String.ofList block.title
  level := block.level
  line := block.heading.number
  offset := block.heading.offset
  moduleName := block.moduleName
  lines := (Body.sourceLines block.body).toArray
  headings := (Body.headings block.body).toArray
  codeBlocks := (Body.codeBlocks block.body).toArray

/-- The section that a block makes. -/
def part (block : Block) : Section :=
  block.opened.close

/-- A block is complete: it begins with a heading, and no code block is open at its end. -/
structure IsComplete (block : Block) : Prop where
  heading_eq : Heading.ofLine? block.heading.characters = some (block.level, block.title)
  code_eq : Body.openCode block.body = none

@[simp] theorem part_kind (block : Block) : block.part.kind = block.kind := rfl

@[simp] theorem part_moduleName (block : Block) : block.part.moduleName = block.moduleName := rfl

@[simp] theorem part_lines (block : Block) : block.part.lines = Body.sourceLines block.body := rfl

@[simp] theorem part_headings (block : Block) :
    block.part.headings = Body.headings block.body := rfl

@[simp] theorem part_codeBlocks (block : Block) :
    block.part.codeBlocks = Body.codeBlocks block.body := rfl

theorem part_span (block : Block) :
    block.part.span =
      ⟨block.heading.number, block.opened.lastLine, some block.heading.offset⟩ := rfl

/-- The last line of a section is its heading or one of its lines. -/
theorem lastLine_mem (block : Block) :
    block.opened.lastLine = block.heading.number ∨
      ∃ line ∈ block.body, block.opened.lastLine = line.number := by
  have last : ∀ (lines : List SourceLine) (start : Nat),
      lines.foldl (fun last line => if line.isBlank then last else line.number) start = start ∨
        ∃ line ∈ lines,
          lines.foldl (fun last line => if line.isBlank then last else line.number) start =
            line.number := by
    intro lines start
    induction lines using List.reverseRecOn with
    | nil => exact Or.inl rfl
    | append_singleton lines line inductionHypothesis =>
      rw [List.foldl_append, List.foldl_cons, List.foldl_nil]
      split
      · rcases inductionHypothesis with same | ⟨own, member, same⟩
        · exact Or.inl same
        · exact Or.inr ⟨own, List.mem_append_left _ member, same⟩
      · exact Or.inr ⟨line, by simp, rfl⟩
  unfold OpenSection.lastLine opened
  rw [List.foldl_toArray]
  rcases last (Body.sourceLines block.body) block.heading.number with same | ⟨line, member, same⟩
  · exact Or.inl same
  · obtain ⟨own, inBody, number, _⟩ := Body.exists_of_mem_sourceLines member
    exact Or.inr ⟨own, inBody, same.trans number⟩

end Block

/-! ### The invariant of reading -/

/-- The lines read so far are a preamble, complete blocks and perhaps a last block, and the state
of reading is what these make. -/
structure Reading.IsCut (given : List Section) (lines : List Line) (reading : Reading)
    (preamble : List Line) (blocks : List Block) (current : Option Block) : Prop where
  lines_eq : lines = preamble ++ (blocks ++ current.toList).flatMap Block.lines
  blocks_nil : current = none → blocks = []
  preamble_code : current ≠ none → Body.openCode preamble = none
  blocks_complete : ∀ block ∈ blocks, block.IsComplete
  current_heading : ∀ block, current = some block →
    Heading.ofLine? block.heading.characters = some (block.level, block.title)
  sections_eq : reading.sections.toList = given ++ blocks.map Block.part
  current_eq : reading.current = current.map Block.opened
  code_eq : reading.code = Body.openCode ((current.map Block.body).getD preamble)

namespace Reading

/-- The heading of a section says what it is to be, and the section around it is all that is
asked for where that is known, or else whether there is a title. -/
theorem classify_congr {reading twin : Reading}
    (kinds : reading.current.map (·.kind) = twin.current.map (·.kind))
    (titles : reading.current = none → reading.title.isSome = twin.title.isSome)
    (level : Nat) (title : List Char) :
    reading.classify level title = twin.classify level title := by
  have within (own : Reading) : own.inModules = (own.current.map (·.kind)).any fun kind =>
      kind == .moduleSections || kind == .moduleSection := by
    unfold inModules
    cases own.current <;> rfl
  have isSome (own : Reading) : own.current.isSome = (own.current.map (·.kind)).isSome :=
    Option.isSome_map.symm
  have known : (reading.title.isSome || reading.current.isSome) =
      (twin.title.isSome || twin.current.isSome) := by
    rw [isSome twin, ← kinds, ← isSome reading]
    cases current : reading.current with
    | none => rw [titles current]
    | some part => rw [Option.isSome_some, Bool.or_true, Bool.or_true]
  unfold classify
  rw [within, within twin, kinds, known]

/-- The next state after a line that begins no section. The line becomes a body line of the
section that is being read, with the heading and the code block that it brings. -/
structure IsExtended (reading : Reading) (line : Line) (next : Reading) : Prop where
  sections_eq : next.sections = reading.sections
  code_eq : next.code = Body.codeStep reading.code line
  current_eq : next.current = reading.current.map fun part =>
    { part with
      lines := part.lines.push ⟨line.number, line.text, Body.isCode reading.code line⟩
      headings := part.headings ++ (Body.headingAt reading.code line).toArray
      codeBlocks := part.codeBlocks ++ (Body.codeBlockAt reading.code line).toArray }

theorem readCode_extends (reading : Reading) {block : OpenCode} (isOpen : reading.code = some block)
    (line : Line) : reading.IsExtended line (reading.readCode block line) := by
  have isCode : Body.isCode (some block) line = true := rfl
  unfold readCode
  split
  · rename_i stays
    have step : Body.codeStep (some block) line =
        some { block with code := block.code.push line.text } := if_pos stays
    refine ⟨rfl, by rw [isOpen, step]; rfl, ?_⟩
    simp only [append, isOpen, isCode, Body.headingAt, Body.codeBlockAt, step]
    cases reading.current <;> simp [Line.text]
  · rename_i ends
    have step : Body.codeStep (some block) line = none := if_neg ends
    refine ⟨rfl, by rw [isOpen, step], ?_⟩
    simp only [append, isOpen, isCode, Body.headingAt, Body.codeBlockAt, step]
    cases reading.current <;> simp [Line.text]

theorem readInnerHeading_extends (reading : Reading) (noCode : reading.code = none) {line : Line}
    (noFence : Fence.ofLine? line.characters = none) {level : Nat} {title : List Char}
    (heading : Heading.ofLine? line.characters = some (level, title)) :
    reading.IsExtended line (reading.readInnerHeading line level title) := by
  have step : Body.codeStep none line = none := by simp [Body.codeStep, noFence]
  have plain : Body.isCode none line = false := by simp [Body.isCode, step]
  unfold readInnerHeading
  split
  · rename_i isTitle
    have noCurrent : reading.current = none := by simp_all
    exact ⟨rfl, by rw [noCode, step], by simp [noCurrent]⟩
  · refine ⟨rfl, by simp only [append, noCode, step], ?_⟩
    simp only [append, noCode, plain, Body.headingAt, heading, Body.codeBlockAt]
    cases reading.current <;> simp [Line.text]

/-- What reading a line does: a heading outside code may begin a section, and every other line
extends the section that is being read. -/
theorem readLine_cases (reading : Reading) (line : Line) :
    (∃ level title kind moduleName, reading.code = none ∧
      Fence.ofLine? line.characters = none ∧
      Heading.ofLine? line.characters = some (level, title) ∧
      reading.classify level title = some (kind, moduleName) ∧
      reading.readLine line = reading.openSection line level title kind moduleName) ∨
    reading.IsExtended line (reading.readLine line) := by
  unfold readLine
  cases code : reading.code with
  | some block => exact Or.inr (reading.readCode_extends code line)
  | none =>
    have step : Body.codeStep none line = (Fence.ofLine? line.characters).map fun fence =>
        ⟨fence, line.number, line.offset, #[]⟩ := rfl
    unfold readProse
    rcases fence : Fence.ofLine? line.characters with _ | opener
    · rcases heading : Heading.ofLine? line.characters with _ | ⟨level, title⟩
      · refine Or.inr ⟨rfl, by rw [code, step, fence]; exact code, ?_⟩
        simp only [append, code, Body.isCode, step, fence, Body.headingAt, heading,
          Body.codeBlockAt]
        cases reading.current <;> simp [Line.text]
      · dsimp only
        cases opens : reading.classify level title with
        | some opened =>
          exact Or.inl ⟨level, title, opened.1, opened.2, rfl, rfl, rfl, opens, rfl⟩
        | none => exact Or.inr (reading.readInnerHeading_extends code fence heading)
    · refine Or.inr ⟨rfl, by rw [code, step, fence]; rfl, ?_⟩
      simp only [append, code, Body.isCode, step, fence, Body.headingAt, Body.codeBlockAt]
      cases reading.current <;> simp [Line.text]

@[simp] theorem closeSection_code (reading : Reading) :
    reading.closeSection.code = reading.code := by
  unfold closeSection
  split <;> rfl

@[simp] theorem openSection_code (reading : Reading) (line : Line) (level : Nat)
    (title : List Char) (kind : SectionKind) (moduleName : Option String) :
    (reading.openSection line level title kind moduleName).code = reading.code :=
  reading.closeSection_code

/-- The code block that is open is found in the lines alone. -/
theorem code_readLine (reading : Reading) (line : Line) :
    (reading.readLine line).code = Body.codeStep reading.code line := by
  rcases reading.readLine_cases line with
    ⟨level, title, kind, moduleName, noCode, noFence, _, _, read⟩ | extended
  · rw [read, openSection_code, noCode, Body.codeStep_of_plain noFence]
  · exact extended.code_eq

theorem code_readLines (reading : Reading) (lines : List Line) :
    (reading.readLines lines).code = lines.foldl Body.codeStep reading.code := by
  induction lines generalizing reading with
  | nil => rfl
  | cons line rest inductionHypothesis =>
    rw [List.foldl_cons, ← code_readLine]
    exact inductionHypothesis (reading.readLine line)

variable {given : List Section} {lines preamble : List Line} {blocks : List Block}
  {reading : Reading} {current : Option Block}

/-- A line that begins no section goes to the last block. -/
theorem IsCut.extendBlock {block : Block}
    (cut : reading.IsCut given lines preamble blocks (some block)) {line : Line} {next : Reading}
    (extended : reading.IsExtended line next) :
    next.IsCut given (lines ++ [line]) preamble blocks
      (some { block with body := block.body ++ [line] }) := by
  have code : reading.code = Body.openCode block.body := cut.code_eq
  refine ⟨?_, by simp, fun _ => cut.preamble_code (by simp), cut.blocks_complete, ?_,
    extended.sections_eq ▸ cut.sections_eq, ?_, ?_⟩
  · simp [cut.lines_eq, Block.lines]
  · rintro _ ⟨⟩
    exact cut.current_heading block rfl
  · rw [extended.current_eq, cut.current_eq, code]
    simp [Block.opened, Body.sourceLines_concat, Body.headings_concat, Body.codeBlocks_concat]
  · rw [extended.code_eq, code]
    exact (Body.openCode_concat block.body line).symm

/-- A line that begins no section goes to the preamble where there is no block. -/
theorem IsCut.extendPreamble (cut : reading.IsCut given lines preamble blocks none) {line : Line}
    {next : Reading} (extended : reading.IsExtended line next) :
    next.IsCut given (lines ++ [line]) (preamble ++ [line]) blocks none := by
  refine ⟨?_, cut.blocks_nil, by simp, cut.blocks_complete, by simp,
    extended.sections_eq ▸ cut.sections_eq, ?_, ?_⟩
  · simp [cut.lines_eq, cut.blocks_nil rfl]
  · rw [extended.current_eq, cut.current_eq]
    rfl
  · rw [extended.code_eq, cut.code_eq]
    exact (Body.openCode_concat preamble line).symm

/-- To end the section that is being read is to count its block among the complete ones. -/
theorem IsCut.closeSection (cut : reading.IsCut given lines preamble blocks current)
    (noCode : reading.code = none) :
    reading.closeSection.sections.toList = given ++ (blocks ++ current.toList).map Block.part ∧
      reading.closeSection.code = none ∧
      ∀ block ∈ blocks ++ current.toList, block.IsComplete := by
  have code := cut.code_eq.symm.trans noCode
  unfold Reading.closeSection
  rw [cut.current_eq]
  cases current with
  | none => exact ⟨by simp [cut.sections_eq], noCode, by simpa using cut.blocks_complete⟩
  | some block =>
    refine ⟨by simp [cut.sections_eq, Block.part], noCode, ?_⟩
    intro other member
    rcases List.mem_append.mp member with earlier | last
    · exact cut.blocks_complete other earlier
    · rw [Option.mem_toList] at last
      cases last
      exact ⟨cut.current_heading block rfl, code⟩

/-- A heading outside code that begins a section begins a block. -/
theorem IsCut.openSection (cut : reading.IsCut given lines preamble blocks current)
    (noCode : reading.code = none) {line : Line} {level : Nat} {title : List Char}
    (heading : Heading.ofLine? line.characters = some (level, title))
    (kind : SectionKind) (moduleName : Option String) :
    (reading.openSection line level title kind moduleName).IsCut given (lines ++ [line]) preamble
      (blocks ++ current.toList) (some ⟨kind, title, level, moduleName, line, []⟩) := by
  obtain ⟨sections, code, complete⟩ := cut.closeSection noCode
  refine ⟨?_, by simp, ?_, complete, ?_, sections, rfl, code⟩
  · simp [cut.lines_eq, Block.lines]
  · intro _
    cases current with
    | none => exact cut.code_eq.symm.trans noCode
    | some block => exact cut.preamble_code (by simp)
  · rintro _ ⟨⟩
    exact heading

/-- Reading a line keeps the invariant. -/
theorem IsCut.readLine (cut : reading.IsCut given lines preamble blocks current) (line : Line) :
    ∃ preamble' blocks' current',
      (reading.readLine line).IsCut given (lines ++ [line]) preamble' blocks' current' := by
  rcases reading.readLine_cases line with
    ⟨level, title, kind, moduleName, noCode, _, heading, _, read⟩ | extended
  · rw [read]
    exact ⟨_, _, _, cut.openSection noCode heading kind moduleName⟩
  · cases current with
    | none => exact ⟨_, _, _, cut.extendPreamble extended⟩
    | some block => exact ⟨_, _, _, cut.extendBlock extended⟩

theorem isCut_start (given : Array Section) :
    (Reading.start given).IsCut given.toList [] [] [] none :=
  ⟨by simp, fun _ => rfl, by simp, by simp, by simp, by simp [start], rfl, rfl⟩

/-- Reading lines from the beginning of the body cuts them. -/
theorem isCut_readLines (given : Array Section) (lines : List Line) :
    ∃ preamble blocks current,
      ((Reading.start given).readLines lines).IsCut given.toList lines preamble blocks
        current := by
  induction lines using List.reverseRecOn with
  | nil => exact ⟨[], [], none, isCut_start given⟩
  | append_singleton lines line inductionHypothesis =>
    obtain ⟨preamble, blocks, current, cut⟩ := inductionHypothesis
    unfold readLines at cut ⊢
    rw [List.foldl_append, List.foldl_cons, List.foldl_nil]
    exact cut.readLine line

end Reading

/-! ### Documents -/

namespace Document

/-- The sections of a document are those that are given and those of the blocks of its body. -/
theorem readBody_eq_ok {frontmatter : Option Frontmatter} {given : Array Section}
    {lines : List Line} {lineCount : Nat} {document : Document}
    (read : readBody frontmatter given lines lineCount = .ok document) :
    ∃ (preamble : List Line) (blocks : List Block), lines = preamble ++ blocks.flatMap Block.lines ∧
      (∀ block ∈ blocks, block.IsComplete) ∧
      document.sections = given.toList ++ blocks.map Block.part ∧
      document.frontmatter = frontmatter ∧ document.lineCount = lineCount := by
  obtain ⟨preamble, blocks, current, cut⟩ := Reading.isCut_readLines given lines
  unfold readBody at read
  dsimp only at read
  split at read
  · cases read
  · rename_i noCode
    cases read
    obtain ⟨sections, _, complete⟩ := cut.closeSection noCode
    exact ⟨preamble, blocks ++ current.toList, cut.lines_eq, complete, sections, rfl, rfl⟩

section Body

variable (frontmatter : Option Frontmatter) (given : Array Section) {lines : List Line}
  (lineCount : Nat)

/-- Reading the body comes to a document where no code block is left open. -/
theorem readBody_of_closed (closed : Body.openCode lines = none) :
    ∃ document, readBody frontmatter given lines lineCount = .ok document := by
  have noCode : ((Reading.start given).readLines lines).code = none :=
    (Reading.code_readLines _ lines).trans closed
  unfold readBody
  dsimp only
  rw [noCode]
  exact ⟨_, rfl⟩

/-- Reading the body fails by the code block that is left open. -/
theorem readBody_of_open {block : OpenCode} (isOpen : Body.openCode lines = some block) :
    ∃ kind, readBody frontmatter given lines lineCount =
      .error (.unclosedCode block.line block.offset lineCount kind) := by
  have code : ((Reading.start given).readLines lines).code = some block :=
    (Reading.code_readLines _ lines).trans isOpen
  unfold readBody
  dsimp only
  rw [code]
  exact ⟨_, rfl⟩

end Body

/-- Where reading the body fails, a line of it opens a fence that nothing closes. -/
theorem readBody_eq_error {frontmatter : Option Frontmatter} {given : Array Section}
    {lines : List Line} {lineCount : Nat} {defect : FatalDefect}
    (read : readBody frontmatter given lines lineCount = .error defect) :
    ∃ opener ∈ lines, ∃ kind,
      defect = .unclosedCode opener.number opener.offset lineCount kind := by
  cases isOpen : Body.openCode lines with
  | none =>
    obtain ⟨document, complete⟩ := readBody_of_closed frontmatter given lineCount isOpen
    rw [complete] at read
    cases read
  | some block =>
    obtain ⟨kind, failed⟩ := readBody_of_open frontmatter given lineCount isOpen
    rw [failed] at read
    cases read
    obtain ⟨front, opener, inner, rfl, _, _, _, number, offset, _⟩ :=
      Body.openCode_eq_some isOpen
    exact ⟨opener, by simp, kind, by rw [number, offset]⟩

end Document

end LlmTxt

/-
This file reads two texts that differ in code alone, and shows that their documents are the same
but for that code. The two runs stay in step. What they have read is the same without the text of
code, and so every heading outside code begins the same section in both, or none.

The one place where the text of code could leak is the end of a section, which is its last line
that is not blank. But a section never ends inside code, and the fence that closes a code block is
not blank. So the invariant of the two runs compares the last lines of the sections that are being
read where no code block is open.
-/

import LlmTxt.Proofs.Document.Masking

namespace LlmTxt

open Text

/-! ### Sections that are being read -/

namespace OpenSection

/-- A section that is being read, without the text of its code and without offsets. -/
def masked (part : OpenSection) : OpenSection :=
  { part with
    offset := 0
    lines := part.lines.map SourceLine.masked
    codeBlocks := part.codeBlocks.map CodeBlock.masked }

variable {part twin : OpenSection}

/-- Sections that are the same but for their code end up the same where they end on one line. -/
theorem masked_close (same : part.masked = twin.masked) (last : part.lastLine = twin.lastLine) :
    part.close.masked = twin.close.masked := by
  have closed (own : OpenSection) : own.close.masked =
      ⟨own.masked.kind, own.masked.title, own.masked.level, own.masked.moduleName,
        ⟨own.masked.line, own.lastLine, none⟩, own.masked.lines.toList,
        own.masked.headings.toList, own.masked.codeBlocks.toList⟩ := by
    simp only [masked, close, Section.masked, Span.unplaced, Array.toList_map]
  rw [closed, closed, same, last]

/-- A section with one more line, and the headings and code blocks that it brings. -/
def extended (part : OpenSection) (line : SourceLine) (headings : List Heading)
    (codeBlocks : List CodeBlock) : OpenSection :=
  { part with
    lines := part.lines.push line
    headings := part.headings ++ headings.toArray
    codeBlocks := part.codeBlocks ++ codeBlocks.toArray }

theorem masked_extended (part : OpenSection) (line : SourceLine) (headings : List Heading)
    (codeBlocks : List CodeBlock) :
    (part.extended line headings codeBlocks).masked =
      part.masked.extended line.masked headings (codeBlocks.map CodeBlock.masked) := by
  simp only [masked, extended, Array.map_push, Array.map_append, List.map_toArray]

theorem lastLine_extended (part : OpenSection) (line : SourceLine) (headings : List Heading)
    (codeBlocks : List CodeBlock) :
    (part.extended line headings codeBlocks).lastLine =
      if line.isBlank then part.lastLine else line.number := by
  unfold lastLine extended
  rw [Array.foldl_push]

theorem map_masked_extended (current : Option OpenSection) (line : SourceLine)
    (headings : List Heading) (codeBlocks : List CodeBlock) :
    (current.map (·.extended line headings codeBlocks)).map masked =
      (current.map masked).map
        (·.extended line.masked headings (codeBlocks.map CodeBlock.masked)) := by
  cases current with
  | none => rfl
  | some part => exact congrArg some (part.masked_extended line headings codeBlocks)

theorem map_lastLine_extended (current : Option OpenSection) (line : Line) (inCode : Bool)
    (headings : List Heading) (codeBlocks : List CodeBlock) :
    (current.map (·.extended ⟨line.number, line.text, inCode⟩ headings codeBlocks)).map lastLine =
      (current.map lastLine).map fun last =>
        if isAllBlank line.characters then last else line.number := by
  cases current with
  | none => rfl
  | some part =>
    rw [Option.map_some, Option.map_some, part.lastLine_extended, SourceLine.isBlank, Line.text,
      String.toList_ofList]
    rfl

end OpenSection

/-! ### Two runs -/

namespace Reading

/-- Two runs are in step: they have read the same but for the text of code and for offsets, and
where no code block is open, the sections that they are reading would end on the same line. -/
structure InStep (reading twin : Reading) : Prop where
  title_eq : reading.title = twin.title
  sections_eq : reading.sections.toList.map Section.masked =
    twin.sections.toList.map Section.masked
  current_eq : reading.current.map OpenSection.masked = twin.current.map OpenSection.masked
  code_eq : reading.code.map OpenCode.masked = twin.code.map OpenCode.masked
  last_eq : reading.code = none →
    reading.current.map OpenSection.lastLine = twin.current.map OpenSection.lastLine

variable {reading twin : Reading} {line other : Line}

theorem inStep_start (given : Array Section) : (start given).InStep (start given) :=
  ⟨rfl, rfl, rfl, rfl, fun _ => rfl⟩

theorem InStep.noCode_iff (inStep : reading.InStep twin) :
    reading.code = none ↔ twin.code = none := by
  rw [← Option.map_eq_none_iff, inStep.code_eq, Option.map_eq_none_iff]

theorem InStep.kind_eq (inStep : reading.InStep twin) :
    reading.current.map (·.kind) = twin.current.map (·.kind) := by
  have same := congrArg (Option.map (·.kind)) inStep.current_eq
  rw [Option.map_map, Option.map_map] at same
  exact same

/-- What a heading begins depends on nothing that code could change. -/
theorem InStep.classify_eq (inStep : reading.InStep twin) (level : Nat) (title : List Char) :
    reading.classify level title = twin.classify level title := by
  refine classify_congr inStep.kind_eq (fun _ => ?_) level title
  rw [inStep.title_eq]

/-- To end a section outside code keeps two runs in step. -/
theorem InStep.closeSection (inStep : reading.InStep twin) (noCode : reading.code = none) :
    reading.closeSection.InStep twin.closeSection := by
  have current := inStep.current_eq
  have last := inStep.last_eq noCode
  unfold Reading.closeSection
  cases ownCase : reading.current with
  | none =>
    rw [ownCase] at current
    rw [Option.map_eq_none_iff.mp current.symm]
    exact inStep
  | some part =>
    rw [ownCase] at current last
    obtain ⟨twinPart, twinCase, masked⟩ := Option.map_eq_some_iff.mp current.symm
    rw [twinCase] at last ⊢
    have closed := OpenSection.masked_close masked.symm (Option.some.inj last)
    refine ⟨inStep.title_eq, ?_, rfl, inStep.code_eq, fun _ => rfl⟩
    simp only [Array.toList_push, List.map_append, List.map_singleton, inStep.sections_eq, closed]

theorem InStep.openSection (inStep : reading.InStep twin) (noCode : reading.code = none)
    (number : line.number = other.number) (level : Nat) (title : List Char) (kind : SectionKind)
    (moduleName : Option String) :
    (reading.openSection line level title kind moduleName).InStep
      (twin.openSection other level title kind moduleName) := by
  have closed := inStep.closeSection noCode
  refine ⟨closed.title_eq, closed.sections_eq, ?_, closed.code_eq, fun _ => ?_⟩
  · simp only [Reading.openSection, Option.map_some, OpenSection.masked, number]
  · simp only [Reading.openSection, Option.map_some, OpenSection.lastLine, number]

/-- A line that begins no section keeps two runs in step. Where it closes a code block, it is the
last line of both sections that is not blank, whatever the code was. -/
theorem InStep.extend (inStep : reading.InStep twin)
    (sameLine : SameLine (reading.code.map OpenCode.fence) line other) {next twinNext : Reading}
    (extended : reading.IsExtended line next) (twinExtended : twin.IsExtended other twinNext)
    (title : next.title = twinNext.title) : next.InStep twinNext := by
  have ownCurrent : next.current = reading.current.map fun part => part.extended
      ⟨line.number, line.text, Body.isCode reading.code line⟩
      (Body.headingAt reading.code line) (Body.codeBlockAt reading.code line) :=
    extended.current_eq
  have twinCurrent : twinNext.current = twin.current.map fun part => part.extended
      ⟨other.number, other.text, Body.isCode twin.code other⟩
      (Body.headingAt twin.code other) (Body.codeBlockAt twin.code other) :=
    twinExtended.current_eq
  refine ⟨title, ?_, ?_, ?_, fun noCode => ?_⟩
  · rw [extended.sections_eq, twinExtended.sections_eq]
    exact inStep.sections_eq
  · rw [ownCurrent, twinCurrent, OpenSection.map_masked_extended,
      OpenSection.map_masked_extended, inStep.current_eq,
      Body.masked_sourceLine inStep.code_eq sameLine, Body.headingAt_eq inStep.code_eq sameLine,
      Body.masked_codeBlockAt inStep.code_eq sameLine]
  · rw [extended.code_eq, twinExtended.code_eq]
    exact Body.masked_codeStep inStep.code_eq sameLine
  · -- Behind a line of code that leaves a code block open, nothing is asked.
    rw [extended.code_eq] at noCode
    obtain ⟨blank, outside⟩ := Body.isAllBlank_eq sameLine noCode
    rw [ownCurrent, twinCurrent, OpenSection.map_lastLine_extended,
      OpenSection.map_lastLine_extended, ← blank, ← sameLine.number_eq]
    cases isBlank : isAllBlank line.characters with
    | true => rw [inStep.last_eq (outside isBlank)]
    | false =>
      have present := congrArg (Option.map fun _ => line.number) inStep.current_eq
      rw [Option.map_map, Option.map_map] at present ⊢
      exact present

/-! ### The title -/

/-- The title that a line gives to a document that has none and no section yet. -/
def titleOf? (line : List Char) : Option String :=
  match Fence.ofLine? line with
  | some _ => none
  | none =>
    match Heading.ofLine? line with
    | some (level, title) => if level = 1 then some (String.ofList title) else none
    | none => none

/-- What a line does to the title of a document. -/
theorem title_readLine (reading : Reading) (line : Line) :
    (reading.readLine line).title = reading.title.or
      (if reading.code.isNone && reading.current.isNone then titleOf? line.characters
        else none) := by
  unfold readLine
  cases code : reading.code with
  | some block =>
    have kept : (reading.readCode block line).title = reading.title := by
      unfold readCode
      split <;> rfl
    simp [kept]
  | none =>
    unfold readProse titleOf?
    rcases fence : Fence.ofLine? line.characters with _ | opener
    · rcases heading : Heading.ofLine? line.characters with _ | ⟨level, title⟩
      · simp [append]
      · dsimp only
        cases opens : reading.classify level title with
        | some opened =>
          -- A heading of the first level begins a section only where a title or a section is.
          rw [openSection_title]
          by_cases first : level = 1
          · have later : reading.title.isSome = true ∨ reading.current.isSome = true := by
              subst first
              simpa [classify] using Option.isSome_of_eq_some opens
            rcases later with titled | within
            · obtain ⟨own, titled⟩ := Option.isSome_iff_exists.mp titled
              rw [titled, Option.some_or]
            · rw [← Option.not_isNone, Bool.not_eq_true'] at within
              rw [within, Bool.and_false, if_neg Bool.false_ne_true, Option.or_none]
          · rw [if_neg first, ite_self, Option.or_none]
        | none =>
          unfold readInnerHeading append
          cases reading.title <;> cases reading.current <;> by_cases first : level = 1 <;>
            simp [first]
    · simp [append]

theorem InStep.title_readLine_eq (inStep : reading.InStep twin)
    (sameLine : SameLine (reading.code.map OpenCode.fence) line other) :
    (reading.readLine line).title = (twin.readLine other).title := by
  have codes : reading.code.isNone = twin.code.isNone := by
    rw [← Option.isNone_map, inStep.code_eq, Option.isNone_map]
  have currents : reading.current.isNone = twin.current.isNone := by
    rw [← Option.isNone_map, inStep.current_eq, Option.isNone_map]
  rw [title_readLine, title_readLine, inStep.title_eq, codes, currents]
  cases code : reading.code with
  | none =>
    rw [code, Option.map_none] at sameLine
    rw [sameLine.characters_eq]
  | some block =>
    rw [← codes, code]
    rfl

/-- Reading a line keeps two runs in step. -/
theorem InStep.readLine (inStep : reading.InStep twin)
    (sameLine : SameLine (reading.code.map OpenCode.fence) line other) :
    (reading.readLine line).InStep (twin.readLine other) := by
  have opened {level : Nat} {title : List Char} {kind : SectionKind} {moduleName : Option String}
      (noCode : reading.code = none) (noFence : Fence.ofLine? line.characters = none)
      (heading : Heading.ofLine? line.characters = some (level, title))
      (opens : reading.classify level title = some (kind, moduleName)) :
      (reading.readLine line).InStep (twin.readLine other) := by
    have own := readLine_of_opens noCode noFence heading opens
    rw [noCode, Option.map_none] at sameLine
    rw [sameLine.characters_eq] at noFence heading
    rw [inStep.classify_eq] at opens
    rw [own, readLine_of_opens (inStep.noCode_iff.mp noCode) noFence heading opens]
    exact inStep.openSection noCode sameLine.number_eq level title kind moduleName
  rcases reading.readLine_cases line with
    ⟨level, title, kind, moduleName, noCode, noFence, heading, opens, _⟩ | extended
  · exact opened noCode noFence heading opens
  · rcases twin.readLine_cases other with
      ⟨level, title, kind, moduleName, noTwinCode, noFence, heading, opens, _⟩ | twinExtended
    · have noCode := inStep.noCode_iff.mpr noTwinCode
      have same := sameLine
      rw [noCode, Option.map_none] at same
      rw [← same.characters_eq] at noFence heading
      rw [← inStep.classify_eq] at opens
      exact opened noCode noFence heading opens
    · exact inStep.extend sameLine extended twinExtended (inStep.title_readLine_eq sameLine)

/-- Two runs over lines that are the same outside code stay in step. -/
theorem InStep.readLines {fence : Option Fence} {characters twinCharacters : List (List Char)}
    (same : SameOutsideCode fence characters twinCharacters) (inStep : reading.InStep twin)
    (isOpen : reading.code.map OpenCode.fence = fence) {lines others : List Line}
    (ownCharacters : lines.map Line.characters = characters)
    (otherCharacters : others.map Line.characters = twinCharacters)
    (numbers : lines.map Line.number = others.map Line.number) :
    (reading.readLines lines).InStep (twin.readLines others) := by
  induction same generalizing reading twin lines others with
  | nil =>
    rw [List.map_eq_nil_iff.mp ownCharacters, List.map_eq_nil_iff.mp otherCharacters]
    exact inStep
  | same line further inductionHypothesis =>
    obtain ⟨own, rest, rfl, rfl, rfl⟩ := List.map_eq_cons_iff.mp ownCharacters
    obtain ⟨other, others, rfl, characters, rfl⟩ := List.map_eq_cons_iff.mp otherCharacters
    obtain ⟨number, numbers⟩ := List.cons.inj numbers
    have sameLine : SameLine (reading.code.map OpenCode.fence) own other :=
      ⟨number, Or.inl characters.symm⟩
    have next := reading.fence_readLine own
    rw [isOpen] at next
    exact inductionHypothesis (inStep.readLine sameLine) next rfl rfl numbers
  | inside stays alsoStays further inductionHypothesis =>
    obtain ⟨own, rest, rfl, rfl, rfl⟩ := List.map_eq_cons_iff.mp ownCharacters
    obtain ⟨other, others, rfl, rfl, rfl⟩ := List.map_eq_cons_iff.mp otherCharacters
    obtain ⟨number, numbers⟩ := List.cons.inj numbers
    have sameLine : SameLine (reading.code.map OpenCode.fence) own other :=
      ⟨number, Or.inr ⟨by rw [isOpen]; rfl, by rw [isOpen, stays], by rw [isOpen, alsoStays]⟩⟩
    have next := reading.fence_readLine own
    rw [isOpen, stays] at next
    exact inductionHypothesis (inStep.readLine sameLine) next rfl rfl numbers

end Reading

/-! ### The frontmatter -/

theorem Frontmatter.linesOfKeys_unplaced (lines : List Line) :
    linesOfKeys (lines.map Line.unplaced) = linesOfKeys lines :=
  List.foldl_map

/-- The frontmatter has no use for the offsets of its lines. -/
theorem Frontmatter.ofLines_unplaced (lines : List Line) (closing : Nat) :
    ofLines (lines.map Line.unplaced) closing = ofLines lines closing := by
  have characters : (lines.map Line.unplaced).map Line.characters = lines.map Line.characters :=
    List.map_map
  unfold ofLines
  rw [characters, linesOfKeys_unplaced]

theorem frontmatterSection_unplaced (lines : List Line) (closing : Nat) :
    frontmatterSection (lines.map Line.unplaced) closing = frontmatterSection lines closing := by
  unfold frontmatterSection
  rw [List.map_map]
  rfl

/-! ### Two documents -/

namespace Document

/-- Bodies that are the same outside code both come to documents, or both to a defect, and these are
the same but for the text of code and for offsets. -/
theorem readBody_inStep {lines others : List Line}
    (same : SameOutsideCode none (lines.map Line.characters) (others.map Line.characters))
    (numbers : lines.map Line.number = others.map Line.number) (frontmatter : Option Frontmatter)
    (given : Array Section) (lineCount : Nat) :
    (∃ document twin, readBody frontmatter given lines lineCount = .ok document ∧
      readBody frontmatter given others lineCount = .ok twin ∧ document.masked = twin.masked) ∨
    ∃ defect other, readBody frontmatter given lines lineCount = .error defect ∧
      readBody frontmatter given others lineCount = .error other ∧
      defect.diagnostic.unplaced = other.diagnostic.unplaced := by
  have inStep := (Reading.inStep_start given).readLines same rfl rfl rfl numbers
  have code := inStep.code_eq
  have kinds := inStep.kind_eq
  unfold readBody
  dsimp only
  cases own : ((Reading.start given).readLines lines).code with
  | none =>
    have closed := inStep.closeSection own
    rw [inStep.noCode_iff.mp own]
    refine Or.inl ⟨_, _, rfl, rfl, ?_⟩
    unfold masked
    dsimp only
    rw [inStep.title_eq, closed.sections_eq]
  | some block =>
    rw [own] at code
    obtain ⟨twinBlock, twinOwn, blocks⟩ := Option.map_eq_some_iff.mp code.symm
    have line : block.line = twinBlock.line := (congrArg OpenCode.line blocks).symm
    rw [twinOwn, kinds]
    refine Or.inr ⟨_, _, rfl, rfl, ?_⟩
    rw [line]
    rfl

/-- What is set aside hangs on the numbers and characters of these lines alone. -/
theorem IsSetAside.of_same {front twinFront : List Line} {frontmatter : Option Frontmatter}
    {given : Array Section} (isSetAside : IsSetAside front frontmatter given)
    (same : front.map Line.unplaced = twinFront.map Line.unplaced) :
    IsSetAside twinFront frontmatter given := by
  cases isSetAside with
  | bare =>
    rw [List.map_eq_nil_iff.mp same.symm]
    exact .bare
  | @closed opener closer body frontmatter delimiter found loaded =>
    rw [List.map_cons, List.map_append, List.map_singleton] at same
    obtain ⟨twinOpener, rest, rfl, openers, further⟩ := List.map_eq_cons_iff.mp same.symm
    obtain ⟨twinBody, last, rfl, bodies, ends⟩ := List.map_eq_append_iff.mp further
    obtain ⟨twinCloser, rfl, closers⟩ := List.map_eq_singleton_iff.mp ends
    have twinDelimiter : Frontmatter.isDelimiter twinOpener.characters = true := by
      rw [(Line.unplaced_eq_iff.mp openers).2]
      exact delimiter
    have number := (Line.unplaced_eq_iff.mp closers).1
    have twinLoaded : Frontmatter.ofLines twinBody twinCloser.number = .ok frontmatter := by
      rw [← Frontmatter.ofLines_unplaced, bodies, Frontmatter.ofLines_unplaced, number]
      exact loaded
    have twinSection : frontmatterSection twinBody twinCloser.number =
        frontmatterSection body closer.number := by
      rw [← frontmatterSection_unplaced, bodies, frontmatterSection_unplaced, number]
    rw [← twinSection]
    exact .closed twinDelimiter (frontmatterEnd_of_same (found []) bodies.symm closers.symm)
      twinLoaded

/-- A text that begins like another is read behind the same frontmatter, if its body begins with the
same line. -/
theorem IsSetAside.ofLines_twin {source twin : Source}
    {front behind twinFront twinBehind : List Line} {frontmatter : Option Frontmatter}
    {given : Array Section} (isSetAside : IsSetAside front frontmatter given)
    (follows : MayFollow front behind) (cut : source.lines = front ++ behind)
    (twinCut : twin.lines = twinFront ++ twinBehind)
    (fronts : front.map Line.characters = twinFront.map Line.characters)
    (heads : (behind.map Line.characters).head? = (twinBehind.map Line.characters).head?) :
    ofLines twin.lines = .ok (readBody frontmatter given twinBehind twin.lines.length) := by
  have lengths : front.length = twinFront.length := by
    rw [← List.length_map Line.characters, fronts, List.length_map]
  have numbers : front.map Line.number = twinFront.map Line.number := by
    rw [@Source.map_number_of_split _ [] front behind cut,
      @Source.map_number_of_split _ [] twinFront twinBehind twinCut, lengths]
  have twinFollows : MayFollow twinFront twinBehind := by
    intro empty first member
    have noFront : front = [] := by
      rw [← List.length_eq_zero_iff, lengths, empty]
      rfl
    rw [List.head?_map, List.head?_map, Option.mem_def.mp member] at heads
    obtain ⟨own, isFirst, same⟩ := Option.map_eq_some_iff.mp heads
    rw [← same]
    exact follows noFront own isFirst
  have twinSetAside := isSetAside.of_same (Line.map_unplaced_eq numbers fronts)
  rw [twinCut]
  exact twinSetAside.ofLines_eq twinFollows

variable {text other : String} {document twin : Document}

/-- Documents of texts that differ in code alone are the same but for that code. -/
theorem masked_eq (read : ofText text = .ok (document, none))
    (twinRead : ofText other = .ok (twin, none)) (differ : document.DifferInCode text other) :
    document.masked = twin.masked := by
  obtain ⟨fronts, bodies⟩ := differ
  have lengths : (Source.ofString text).lines.length = (Source.ofString other).lines.length := by
    have front := congrArg List.length fronts
    have back := bodies.length_eq
    simp only [List.length_take, List.length_drop, List.length_map] at front back
    omega
  have numbers : (Source.ofString text).lines.map Line.number =
      (Source.ofString other).lines.map Line.number := by
    rw [Source.map_number_lines, Source.map_number_lines, lengths]
  obtain ⟨front, behind, frontmatter, given, cut, isSetAside, follows, body⟩ :=
    ofLines_cases (ofText_eq_document read)
  obtain ⟨_, _, _, _, _, own, _⟩ := readBody_eq_ok body
  rw [own, ← isSetAside.length_eq cut] at fronts bodies
  rw [← List.map_take, ← List.map_take, cut, List.take_left] at fronts
  rw [← List.map_drop, ← List.map_drop, cut, List.drop_left] at bodies
  have bodyNumbers := congrArg (List.drop front.length) numbers
  rw [← List.map_drop, ← List.map_drop, cut, List.drop_left] at bodyNumbers
  have twinCut := (List.take_append_drop front.length (Source.ofString other).lines).symm
  have twinOutcome := ofText_eq_document twinRead
  rw [isSetAside.ofLines_twin follows cut twinCut fronts bodies.head_eq] at twinOutcome
  rw [lengths] at body
  rcases readBody_inStep bodies bodyNumbers frontmatter given
    (Source.ofString other).lines.length with
    ⟨_, _, ownBody, twinBody, masked⟩ | ⟨_, _, ownBody, _⟩
  · rw [ownBody] at body
    rw [twinBody] at twinOutcome
    cases body
    cases twinOutcome
    exact masked
  · rw [ownBody] at body
    cases body

end Document

end LlmTxt

/-
This file moves the reading of lines to another place. Reading never counts with the numbers and
offsets of lines; it only hands them on. So lines that are numbered otherwise give the same
sections, numbered otherwise. Nor does it look at the sections that are there already: what is
read behind some sections is what would be read without them, put behind them.

The title is the one exception. A heading of the first level becomes the title of a document that
has none and no section yet. Once a section is being read, a title has no say any more.
-/

import LlmTxt.Proofs.Document.Blocks
import LlmTxt.Proofs.Source.Joining

namespace LlmTxt

/-! ### What a document is made of, in another place -/

def Span.moved (place : Placement) (span : Span) : Span :=
  ⟨place.line span.first, place.line span.last, span.offset.map place.byte⟩

def SourceLine.moved (place : Placement) (line : SourceLine) : SourceLine :=
  { line with number := place.line line.number }

def Heading.moved (place : Placement) (heading : Heading) : Heading :=
  { heading with line := place.line heading.line }

def CodeBlock.moved (place : Placement) (block : CodeBlock) : CodeBlock :=
  { block with span := block.span.moved place }

/-- A section in another place: the numbers of its lines, headings and code blocks and the offsets
of its spans change, and nothing else does. -/
def Section.moved (place : Placement) (part : Section) : Section :=
  { part with
    span := part.span.moved place
    lines := part.lines.map (SourceLine.moved place)
    headings := part.headings.map (Heading.moved place)
    codeBlocks := part.codeBlocks.map (CodeBlock.moved place) }

def OpenSection.moved (place : Placement) (part : OpenSection) : OpenSection :=
  { part with
    line := place.line part.line
    offset := place.byte part.offset
    lines := part.lines.map (SourceLine.moved place)
    headings := part.headings.map (Heading.moved place)
    codeBlocks := part.codeBlocks.map (CodeBlock.moved place) }

def OpenCode.moved (place : Placement) (block : OpenCode) : OpenCode :=
  { block with line := place.line block.line, offset := place.byte block.offset }

theorem Section.moved_here (part : Section) : part.moved .here = part := by
  have span (span : Span) : span.moved .here = span := by
    unfold Span.moved
    rw [show Placement.here.byte = id from rfl, Option.map_id_fun]
    rfl
  have lines : part.lines.map (SourceLine.moved .here) = part.lines := List.map_id _
  have headings : part.headings.map (Heading.moved .here) = part.headings := List.map_id _
  have codeBlocks : part.codeBlocks.map (CodeBlock.moved .here) = part.codeBlocks := by
    conv_rhs => rw [← List.map_id part.codeBlocks]
    refine List.map_congr_left fun block _ => ?_
    unfold CodeBlock.moved
    rw [span]
    rfl
  unfold Section.moved
  rw [span, lines, headings, codeBlocks]

/-- The same fatal defect in another place. -/
def FatalDefect.moved (place : Placement) : FatalDefect → FatalDefect
  | headingInFrontmatter line => headingInFrontmatter (place.line line)
  | unclosedFrontmatter lineCount => unclosedFrontmatter (place.line lineCount)
  | unclosedCode line offset lineCount kind =>
    unclosedCode (place.line line) (place.byte offset) (place.line lineCount) kind

namespace OpenSection

/-- The last line of a section is one of its lines, wherever they are. -/
theorem lastLine_moved (place : Placement) (part : OpenSection) :
    (part.moved place).lastLine = place.line part.lastLine := by
  have last (lines : List SourceLine) (start : Nat) :
      (lines.map (SourceLine.moved place)).foldl
          (fun last line => if line.isBlank then last else line.number) (place.line start) =
        place.line
          (lines.foldl (fun last line => if line.isBlank then last else line.number) start) := by
    induction lines using List.reverseRecOn with
    | nil => rfl
    | append_singleton lines line inductionHypothesis =>
      have blank : (line.moved place).isBlank = line.isBlank := rfl
      simp only [List.map_append, List.map_singleton, List.foldl_append, List.foldl_cons,
        List.foldl_nil, inductionHypothesis, blank]
      split <;> rfl
  unfold lastLine moved
  dsimp only
  rw [← Array.foldl_toList, ← Array.foldl_toList, Array.toList_map, last]

theorem close_moved (place : Placement) (part : OpenSection) :
    (part.moved place).close = part.close.moved place := by
  unfold close
  rw [lastLine_moved]
  simp only [moved, Section.moved, Span.moved, Array.toList_map, Option.map_some]

end OpenSection

/-! ### Reading -/

namespace Reading

/-- What has been read, moved to another place, behind other sections, and in a document of
another title if one is given. -/
def placed (place : Placement) (given : Array Section) (title : Option String)
    (reading : Reading) : Reading where
  title := title.or reading.title
  sections := given ++ reading.sections.map (Section.moved place)
  current := reading.current.map (OpenSection.moved place)
  code := reading.code.map (OpenCode.moved place)

variable {place : Placement} {given : Array Section} {title : Option String} {reading : Reading}

theorem append_placed (line : Line) (inCode : Bool) :
    (reading.placed place given title).append (line.moved place) inCode =
      (reading.append line inCode).placed place given title := by
  obtain ⟨own, sections, current, code⟩ := reading
  cases current with
  | none => rfl
  | some part =>
    simp only [append, placed, Option.map_some, OpenSection.moved, Array.map_push]
    rfl

theorem closeSection_placed :
    (reading.placed place given title).closeSection =
      reading.closeSection.placed place given title := by
  obtain ⟨own, sections, current, code⟩ := reading
  cases current with
  | none => rfl
  | some part =>
    simp only [closeSection, placed, Option.map_some, Option.map_none, OpenSection.close_moved,
      Array.map_push, Array.push_append]

theorem openSection_placed (line : Line) (level : Nat) (text : List Char) (kind : SectionKind)
    (moduleName : Option String) :
    (reading.placed place given title).openSection (line.moved place) level text kind moduleName =
      (reading.openSection line level text kind moduleName).placed place given title := by
  unfold openSection
  rw [closeSection_placed]
  simp only [placed, Option.map_some, OpenSection.moved, Line.moved, Array.map_empty]

theorem readCode_placed (block : OpenCode) (line : Line) :
    (reading.placed place given title).readCode (block.moved place) (line.moved place) =
      (reading.readCode block line).placed place given title := by
  have fence : (block.moved place).fence = block.fence := rfl
  obtain ⟨own, sections, current, code⟩ := reading
  unfold readCode
  rw [append_placed, fence, Line.characters_moved]
  split
  · rfl
  · cases current with
    | none => rfl
    | some part =>
      simp only [append, placed, Option.map_some, OpenSection.moved, Array.map_push]
      rfl

variable (fits : title = none ∨ reading.current.isSome)

include fits

theorem classify_placed (level : Nat) (text : List Char) :
    (reading.placed place given title).classify level text = reading.classify level text := by
  refine classify_congr ?_ (fun noCurrent => ?_) level text
  · unfold placed
    rw [Option.map_map]
    rfl
  · rcases fits with rfl | within
    · rfl
    · obtain ⟨part, current⟩ := Option.isSome_iff_exists.mp within
      unfold placed at noCurrent
      rw [current] at noCurrent
      cases noCurrent

theorem readInnerHeading_placed (line : Line) (level : Nat) (text : List Char) :
    (reading.placed place given title).readInnerHeading (line.moved place) level text =
      (reading.readInnerHeading line level text).placed place given title := by
  obtain ⟨own, sections, current, code⟩ := reading
  cases current with
  | none =>
    rcases fits with rfl | within
    · by_cases isTitle : (decide (level = 1) && own.isNone && true) = true
      · have read : (Reading.mk own sections none code).readInnerHeading line level text =
            ⟨some (String.ofList text), sections, none, code⟩ := if_pos isTitle
        rw [read]
        exact if_pos isTitle
      · have read : (Reading.mk own sections none code).readInnerHeading line level text =
            ⟨own, sections, none, code⟩ := if_neg isTitle
        rw [read]
        exact if_neg isTitle
    · cases within
  | some part =>
    simp only [readInnerHeading, placed, append, Option.map_some, Option.isNone_some,
      Bool.and_false, Bool.false_eq_true, if_false, OpenSection.moved, Array.map_push]
    rfl

/-- Reading a line in another place gives what reading it gives, in that place. -/
theorem readLine_placed (line : Line) :
    (reading.placed place given title).readLine (line.moved place) =
      (reading.readLine line).placed place given title := by
  have code : (reading.placed place given title).code =
      reading.code.map (OpenCode.moved place) := rfl
  unfold readLine
  rw [code]
  cases reading.code with
  | some block => exact readCode_placed block line
  | none =>
    rw [Option.map_none]
    dsimp only
    unfold readProse
    rw [Line.characters_moved]
    cases Fence.ofLine? line.characters with
    | some fence =>
      dsimp only
      rw [append_placed]
      rfl
    | none =>
      dsimp only
      cases Heading.ofLine? line.characters with
      | none => exact append_placed line false
      | some heading =>
        obtain ⟨level, text⟩ := heading
        dsimp only
        rw [classify_placed fits]
        cases reading.classify level text with
        | none => exact readInnerHeading_placed fits line level text
        | some opened => exact openSection_placed line level text opened.1 opened.2

omit fits

/-- Once a section is being read, some section is. -/
theorem current_isSome_readLine (within : reading.current.isSome) (line : Line) :
    (reading.readLine line).current.isSome := by
  rcases reading.readLine_cases line with ⟨_, _, _, _, _, _, _, _, read⟩ | extended
  · rw [read]
    rfl
  · rw [extended.current_eq, Option.isSome_map]
    exact within

/-- Reading lines in another place gives what reading them gives, in that place. -/
theorem readLines_placed (fits : title = none ∨ reading.current.isSome) (lines : List Line) :
    (reading.placed place given title).readLines (lines.map (Line.moved place)) =
      (reading.readLines lines).placed place given title := by
  induction lines generalizing reading with
  | nil => rfl
  | cons line rest inductionHypothesis =>
    have next : title = none ∨ (reading.readLine line).current.isSome :=
      fits.imp_right fun within => current_isSome_readLine within line
    unfold readLines at inductionHypothesis ⊢
    rw [List.map_cons, List.foldl_cons, List.foldl_cons, readLine_placed fits,
      inductionHypothesis next]

/-- What reading comes to in the end. -/
def finish (frontmatter : Option Frontmatter) (lineCount : Nat) (reading : Reading) :
    Except FatalDefect Document :=
  match reading.code with
  | some block =>
    .error (.unclosedCode block.line block.offset lineCount (reading.current.map (·.kind)))
  | none =>
    .ok ⟨frontmatter, reading.title, reading.closeSection.sections.toList, [], lineCount⟩

theorem finish_eq_ok {frontmatter : Option Frontmatter} {lineCount : Nat} {document : Document}
    (finished : reading.finish frontmatter lineCount = .ok document) :
    document.title = reading.title ∧ document.diagnostics = [] := by
  unfold finish at finished
  split at finished
  · cases finished
  · cases finished
    exact ⟨rfl, rfl⟩

/-- In another place and behind other sections, reading comes to the same, in that place and behind
these sections. -/
theorem finish_placed (frontmatter : Option Frontmatter) (lineCount : Nat) :
    (reading.placed place given title).finish frontmatter (place.line lineCount) =
      match reading.finish none lineCount with
      | .ok document => .ok ⟨frontmatter, title.or document.title,
          given.toList ++ document.sections.map (Section.moved place), [],
          place.line document.lineCount⟩
      | .error defect => .error (defect.moved place) := by
  have code : (reading.placed place given title).code =
      reading.code.map (OpenCode.moved place) := rfl
  have kinds : (reading.placed place given title).current.map (·.kind) =
      reading.current.map (·.kind) := by
    unfold placed
    cases reading.current <;> rfl
  unfold finish
  rw [code, kinds, closeSection_placed]
  cases reading.code with
  | some block => rfl
  | none => simp only [Option.map_none, placed, Array.toList_append, Array.toList_map]

end Reading

theorem Document.readBody_eq_finish (frontmatter : Option Frontmatter) (given : Array Section)
    (lines : List Line) (lineCount : Nat) :
    readBody frontmatter given lines lineCount =
      ((Reading.start given).readLines lines).finish frontmatter lineCount := rfl

end LlmTxt

/-
This file shows that the three records that a section keeps of its body agree. Each body line has a
mark if it is code, each code block has a span and its code, and each heading outside code is listed.
The three are written by different steps of reading, but all of them hang on the stretches of code
among the lines: a line has the mark if and only if it is a line of a stretch, the code blocks are
the stretches, and the headings are those of the lines of prose.

That a mark tells the stretch needs the numbers of the lines: they increase, so a line lies in the
span of a code block only if it is one of its lines.
-/

import LlmTxt.Proofs.Document.Stretches
import LlmTxt.Proofs.Document.Tiling

namespace LlmTxt

/-! ### Records that agree -/

/-- The heading that a body line is, unless it is code. -/
def SourceLine.heading? (line : SourceLine) : Option Heading :=
  if line.inCode then none
  else
    (Heading.ofLine? line.text.toList).map fun found =>
      ⟨found.1, String.ofList found.2, line.number⟩

/-- Whether the span of a code block holds the line of a number. -/
def CodeBlock.hasLine (block : CodeBlock) (number : Nat) : Bool :=
  block.span.first ≤ number && number ≤ block.span.last

/-- A code block stands among body lines: it begins at a line that opens a fence, and ends at the
first line behind it that closes this fence. What stands between is its code. -/
structure CodeBlock.IsFenced (block : CodeBlock) (fence : Fence) (opener : SourceLine)
    (inner : List SourceLine) (closer : SourceLine) : Prop where
  first_eq : block.span.first = opener.number
  last_eq : block.span.last = closer.number
  opens : Fence.ofLine? opener.text.toList = some fence
  inside : ∀ line ∈ inner, fence.isClosedBy line.text.toList = false
  closes : fence.isClosedBy closer.text.toList = true
  code_eq : block.code = "\n".intercalate (inner.map (·.text))
  language_eq : block.language = fence.language.map String.ofList

/-- A code block is some of the body lines, one behind the other. -/
def CodeBlock.IsAmong (lines : List SourceLine) (block : CodeBlock) : Prop :=
  ∃ before opener inner closer after fence, lines = before ++ opener :: (inner ++ closer :: after) ∧
    block.IsFenced fence opener inner closer

/-- What a section says of code and headings in its body agrees with its lines. -/
structure Section.KeepsCode (part : Section) : Prop where
  /-- The lines are those behind the heading, without a gap. -/
  numbers_eq : part.lines.map (·.number) = List.range' (part.span.first + 1) part.lines.length
  /-- The code blocks stand in their order, apart from each other. -/
  apart : part.codeBlocks.Pairwise fun earlier later => earlier.span.last < later.span.first
  among : ∀ block ∈ part.codeBlocks, block.IsAmong part.lines
  /-- The lines of the code blocks are those that are marked as code. -/
  inCode_eq : ∀ line ∈ part.lines, line.inCode = part.codeBlocks.any (·.hasLine line.number)
  /-- No fence stands outside the code blocks. -/
  outside : ∀ line ∈ part.lines, line.inCode = false → Fence.ofLine? line.text.toList = none
  headings_eq : part.headings = part.lines.filterMap SourceLine.heading?

/-! ### Lines -/

theorem CodeBlock.hasLine_iff {block : CodeBlock} {number : Nat} :
    block.hasLine number = true ↔ block.span.first ≤ number ∧ number ≤ block.span.last := by
  simp only [hasLine, Bool.and_eq_true, decide_eq_true_eq]

theorem CodeBlock.IsAmong.behind {lines : List SourceLine} {block : CodeBlock}
    (among : block.IsAmong lines) (front : List SourceLine) : block.IsAmong (front ++ lines) := by
  obtain ⟨before, opener, inner, closer, after, fence, cut, fenced⟩ := among
  exact ⟨front ++ before, opener, inner, closer, after, fence,
    by rw [cut, List.append_assoc], fenced⟩

namespace Body

theorem toList_text (line : Line) : line.text.toList = line.characters :=
  String.toList_ofList

/-- The headings that reading lists are those of the lines that it does not mark. -/
theorem headingsFrom_eq (code : Option OpenCode) (lines : List Line) :
    headingsFrom code lines = (sourceLinesFrom code lines).filterMap SourceLine.heading? := by
  induction lines generalizing code with
  | nil => rfl
  | cons line rest inductionHypothesis =>
    rw [headingsFrom, sourceLinesFrom, inductionHypothesis, List.filterMap_cons,
      SourceLine.heading?, headingAt, toList_text]
    dsimp only
    cases isCode code line with
    | true => rfl
    | false => cases Heading.ofLine? line.characters <;> rfl

/-- A line that is not marked is no fence. -/
theorem fence_of_mem_sourceLinesFrom {code : Option OpenCode} {lines : List Line}
    {line : SourceLine} (member : line ∈ sourceLinesFrom code lines)
    (prose : line.inCode = false) : Fence.ofLine? line.text.toList = none := by
  induction lines generalizing code with
  | nil => cases member
  | cons own rest inductionHypothesis =>
    rcases List.mem_cons.mp member with rfl | later
    · have noCode := Bool.or_eq_false_iff.mp prose
      rw [Option.isSome_eq_false_iff, Option.isNone_iff_eq_none] at noCode
      rw [noCode.1, codeStep, Option.isSome_map, Option.isSome_eq_false_iff,
        Option.isNone_iff_eq_none] at noCode
      dsimp only
      rw [toList_text]
      exact noCode.2
    · exact inductionHypothesis later

/-- Every code block of stretched lines is some of them. -/
theorem IsStretched.isAmong {lines : List Line} (stretched : IsStretched lines) :
    ∀ block ∈ codeBlocks lines, block.IsAmong (sourceLines lines) := by
  induction stretched with
  | nil => exact fun _ member => nomatch member
  | prose noFence further inductionHypothesis =>
    rw [codeBlocks_prose noFence, sourceLines_prose noFence]
    exact fun block member => (inductionHypothesis block member).behind [_]
  | @code fence opener inner closer rest isCode further inductionHypothesis =>
    rw [isCode.codeBlocks_eq, isCode.sourceLines_eq]
    refine List.forall_mem_cons.mpr ⟨?_, fun block member =>
      (inductionHypothesis block member).behind _⟩
    refine ⟨[], codeLine opener, inner.map codeLine, codeLine closer, sourceLines rest, fence,
      by simp, rfl, rfl, ?_, ?_, ?_, ?_, rfl⟩
    · rw [codeLine, toList_text]
      exact isCode.opens
    · intro line member
      obtain ⟨own, inInner, rfl⟩ := List.mem_map.mp member
      rw [codeLine, toList_text]
      exact isCode.inside own inInner
    · rw [codeLine, toList_text]
      exact isCode.closes
    · rw [List.map_map]
      rfl

/-- A code block begins at one of the lines. -/
theorem exists_first_of_mem_codeBlocks {lines : List Line} {block : CodeBlock}
    (member : block ∈ codeBlocks lines) : ∃ line ∈ lines, block.span.first = line.number := by
  obtain ⟨before, opener, inner, closer, after, _, cut, _, rfl⟩ := exists_of_mem_codeBlocks member
  exact ⟨opener, by simp [cut], rfl⟩

/-! ### Numbers -/

/-- The numbers of lines increase. -/
def IsIncreasing (lines : List Line) : Prop :=
  lines.Pairwise fun earlier later => earlier.number < later.number

theorem IsCode.split {opener closer : Line} {inner rest : List Line}
    (increasing : IsIncreasing (opener :: (inner ++ closer :: rest))) :
    (∀ line ∈ opener :: (inner ++ [closer]),
        opener.number ≤ line.number ∧ line.number ≤ closer.number) ∧
      (∀ line ∈ rest, closer.number < line.number) ∧ IsIncreasing rest := by
  obtain ⟨opens, further⟩ := List.pairwise_cons.mp increasing
  obtain ⟨_, behind, before⟩ := List.pairwise_append.mp further
  obtain ⟨closes, others⟩ := List.pairwise_cons.mp behind
  refine ⟨?_, closes, others⟩
  intro line member
  have order := opens closer (by simp)
  rcases List.mem_cons.mp member with rfl | later
  · exact ⟨Nat.le_refl _, Nat.le_of_lt order⟩
  · rcases List.mem_append.mp later with inInner | last
    · exact ⟨Nat.le_of_lt (opens line (List.mem_append_left _ inInner)),
        Nat.le_of_lt (before line inInner closer List.mem_cons_self)⟩
    · rw [List.mem_singleton.mp last]
      exact ⟨Nat.le_of_lt order, Nat.le_refl _⟩

/-- A line before the lines of code blocks lies in none of them. -/
theorem any_hasLine_eq_false {lines : List Line} {number : Nat}
    (before : ∀ line ∈ lines, number < line.number) :
    (codeBlocks lines).any (·.hasLine number) = false := by
  refine List.any_eq_false.mpr fun block member => ?_
  obtain ⟨line, inLines, first⟩ := exists_first_of_mem_codeBlocks member
  have order := before line inLines
  rw [CodeBlock.hasLine_iff]
  omega

/-- The code blocks of stretched lines stand apart from each other. -/
theorem IsStretched.pairwise {lines : List Line} (stretched : IsStretched lines)
    (increasing : IsIncreasing lines) :
    (codeBlocks lines).Pairwise fun earlier later => earlier.span.last < later.span.first := by
  induction stretched with
  | nil => exact List.Pairwise.nil
  | prose noFence further inductionHypothesis =>
    rw [codeBlocks_prose noFence]
    exact inductionHypothesis (List.pairwise_cons.mp increasing).2
  | code isCode further inductionHypothesis =>
    obtain ⟨_, behind, others⟩ := IsCode.split increasing
    rw [isCode.codeBlocks_eq]
    refine List.pairwise_cons.mpr ⟨fun later member => ?_, inductionHypothesis others⟩
    obtain ⟨line, inRest, first⟩ := exists_first_of_mem_codeBlocks member
    rw [first]
    exact behind line inRest

/-- Stretched lines are marked where a code block has them. -/
theorem IsStretched.inCode_eq {lines : List Line} (stretched : IsStretched lines)
    (increasing : IsIncreasing lines) :
    ∀ line ∈ sourceLines lines, line.inCode = (codeBlocks lines).any (·.hasLine line.number) := by
  induction stretched with
  | nil => exact fun _ member => nomatch member
  | prose noFence further inductionHypothesis =>
    obtain ⟨before, others⟩ := List.pairwise_cons.mp increasing
    rw [sourceLines_prose noFence, codeBlocks_prose noFence]
    refine List.forall_mem_cons.mpr ⟨?_, inductionHypothesis others⟩
    exact (any_hasLine_eq_false before).symm
  | @code fence opener inner closer rest isCode further inductionHypothesis =>
    obtain ⟨within, behind, others⟩ := IsCode.split increasing
    rw [isCode.sourceLines_eq, isCode.codeBlocks_eq]
    intro line member
    rw [List.any_cons]
    rcases List.mem_append.mp member with own | later
    · obtain ⟨line, inStretch, rfl⟩ := List.mem_map.mp own
      rw [CodeBlock.hasLine_iff.mpr (within line inStretch), Bool.true_or]
      rfl
    · obtain ⟨own, inRest, number, _⟩ := exists_of_mem_sourceLines later
      have order := behind own inRest
      have uncovered : ¬(opener.number ≤ line.number ∧ line.number ≤ closer.number) := by
        omega
      rw [Bool.eq_false_iff.mpr (mt CodeBlock.hasLine_iff.mp uncovered), Bool.false_or,
        inductionHypothesis others line later]

end Body

/-! ### Documents -/

/-- A complete block of a text makes a section whose records agree. -/
theorem Block.keepsCode {source : Source} {front back : List Line} {block : Block}
    (cut : source.lines = front ++ (block.lines ++ back)) (complete : block.IsComplete) :
    block.part.KeepsCode := by
  have headed : source.lines = front ++ block.heading :: (block.body ++ back) := cut
  have first : block.part.span.first = front.length + 1 := Source.number_eq_of_split headed
  have body : source.lines = (front ++ [block.heading]) ++ (block.body ++ back) := by
    rw [headed]
    simp
  have numbers := Source.map_number_of_split body
  rw [List.length_append, List.length_singleton, ← first] at numbers
  have increasing : Body.IsIncreasing block.body := by
    refine List.pairwise_map.mp ?_
    rw [numbers]
    exact List.pairwise_lt_range' 1
  have stretched := Body.isStretched_of_openCode complete.code_eq
  have lines : block.part.lines.map (·.number) = block.body.map Line.number := by
    have pairs := congrArg (List.map Prod.fst) (Body.map_sourceLines block.body)
    rw [List.map_map, List.map_map] at pairs
    exact pairs
  refine ⟨?_, stretched.pairwise increasing, stretched.isAmong, stretched.inCode_eq increasing,
    fun line member => Body.fence_of_mem_sourceLinesFrom member, Body.headingsFrom_eq none _⟩
  have length := congrArg List.length lines
  rw [List.length_map, List.length_map] at length
  rw [lines, numbers, length]

/-- The code blocks of sections that follow each other in a text stand apart from each other, in the
order of their sections. -/
theorem Block.pairwise_codeBlocks {blocks : List Block}
    (increasing : Body.IsIncreasing (blocks.flatMap Block.lines))
    (complete : ∀ block ∈ blocks, block.IsComplete) :
    ((blocks.map Block.part).flatMap (·.codeBlocks)).Pairwise
      fun earlier later => earlier.span.last < later.span.first := by
  induction blocks with
  | nil => exact List.Pairwise.nil
  | cons block rest inductionHypothesis =>
    obtain ⟨own, others⟩ := List.forall_mem_cons.mp complete
    obtain ⟨inBlock, behind, between⟩ := List.pairwise_append.mp increasing
    have stretched := Body.isStretched_of_openCode own.code_eq
    rw [List.map_cons, List.flatMap_cons]
    refine List.pairwise_append.mpr ⟨stretched.pairwise (List.pairwise_cons.mp inBlock).2,
      inductionHypothesis behind others, fun earlier inOwn later inOthers => ?_⟩
    obtain ⟨_, inParts, inLater⟩ := List.mem_flatMap.mp inOthers
    obtain ⟨next, inRest, rfl⟩ := List.mem_map.mp inParts
    obtain ⟨before, opener, inner, closer, after, _, cut, _, rfl⟩ :=
      Body.exists_of_mem_codeBlocks inOwn
    obtain ⟨first, inBody, same⟩ := Body.exists_first_of_mem_codeBlocks inLater
    rw [same]
    refine between closer ?_ first ?_
    · exact List.mem_cons_of_mem _ (by simp [cut])
    · exact List.mem_flatMap.mpr ⟨next, inRest, List.mem_cons_of_mem _ inBody⟩

/-- The code blocks of a document stand apart from each other, in the order of its sections. -/
theorem Document.pairwise_codeBlocks {text : String} {document : Document}
    (read : Document.ofText text = .ok (document, none)) :
    (document.sections.flatMap (·.codeBlocks)).Pairwise
      fun earlier later => earlier.span.last < later.span.first := by
  have increasing : Body.IsIncreasing (Source.ofString text).lines :=
    (Source.ofString text).pairwise_lines
  obtain ⟨preamble, blocks, cut, complete⟩ := Document.ofText_eq_ok read
  cases cut with
  | bare lines_eq _ sections_eq =>
    rw [lines_eq] at increasing
    rw [sections_eq]
    exact Block.pairwise_codeBlocks (List.pairwise_append.mp increasing).2.1 complete
  | fronted opener inner closer _ lines_eq _ _ sections_eq =>
    have behind : (Source.ofString text).lines =
        (opener :: (inner ++ closer :: preamble)) ++ blocks.flatMap Block.lines := by
      simp [lines_eq]
    rw [behind] at increasing
    rw [sections_eq]
    exact Block.pairwise_codeBlocks (List.pairwise_append.mp increasing).2.1 complete

/-- Code blocks, marks and headings are consistent in every section of a document but the one that
stands for the frontmatter. The code blocks are stretches of the body lines, each from a fence up to
the first line that closes it, in their order and apart from each other; a line is marked as code if
and only if it lies in one of them; and the headings listed are those of the lines that are not. -/
theorem code_is_consistent {text : String} {document : Document}
    (read : Document.ofText text = .ok (document, none)) {part : Section}
    (member : part ∈ document.sections) (body : part.kind ≠ .frontmatter) : part.KeepsCode := by
  obtain ⟨preamble, blocks, cut, complete⟩ := Document.ofText_eq_ok read
  cases cut with
  | bare lines_eq _ sections_eq =>
    rw [sections_eq] at member
    obtain ⟨block, inBlocks, rfl⟩ := List.mem_map.mp member
    obtain ⟨front, back, split⟩ := Block.exists_split inBlocks preamble
    exact Block.keepsCode (lines_eq.trans split) (complete block inBlocks)
  | fronted opener inner closer _ lines_eq _ _ sections_eq =>
    rw [sections_eq] at member
    rcases List.mem_cons.mp member with rfl | behind
    · exact absurd rfl body
    · obtain ⟨block, inBlocks, rfl⟩ := List.mem_map.mp behind
      obtain ⟨front, back, split⟩ := Block.exists_split inBlocks preamble
      have inText : (Source.ofString text).lines =
          (opener :: (inner ++ closer :: front)) ++ (block.lines ++ back) := by
        simp [lines_eq, split]
      exact Block.keepsCode inText (complete block inBlocks)

/-- A section with fences of both characters and several lengths, one inside the code of another,
and a heading inside code beside one outside. -/
def fencesText : String :=
  "## Index\n~~~~ py\n~~~\n# x\n~~~~~\n### a\n\x60\x60\x60\n~~~~\n\x60\x60\x60\x60\n"

theorem code_is_consistent_of_fences :
    ∃ document part, Document.ofText fencesText = .ok (document, none) ∧
      part ∈ document.sections ∧ part.kind ≠ .frontmatter ∧
      part.codeBlocks.map (fun block => (block.span.first, block.span.last)) = [(2, 5), (7, 9)] ∧
      part.headings.map (·.line) = [6] ∧ part.KeepsCode := by
  obtain ⟨document, part, read, member, body, blocks, headings⟩ : ∃ document part,
      Document.ofText fencesText = .ok (document, none) ∧ part ∈ document.sections ∧
        part.kind ≠ .frontmatter ∧
        part.codeBlocks.map (fun block => (block.span.first, block.span.last)) =
          [(2, 5), (7, 9)] ∧
        part.headings.map (·.line) = [6] :=
    ⟨_, _, rfl, List.mem_cons_self, by decide +kernel, by decide +kernel, by decide +kernel⟩
  exact ⟨document, part, read, member, body, blocks, headings,
    code_is_consistent read member body⟩

end LlmTxt

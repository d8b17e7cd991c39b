/-
This file shows that whatever a document keeps of its text is where it says. Each section and each
code block has a span that lies in the text, and each line and heading of a section has the number
of a line of the text. A code block has room for its code between its first and its last line,
which is what lets references be numbered from the line behind its fence.

All of it comes from the way in which a document is cut into blocks: the lines of a block follow
each other in the text, so their numbers do.
-/

import LlmTxt.Proofs.Document.SetAside
import LlmTxt.Proofs.Source
import LlmTxt.Proofs.Text.Pieces

namespace LlmTxt

open Text

/-! ### Places in a text -/

/-- A text has a line of that number. -/
structure Source.HasLine (source : Source) (number : Nat) : Prop where
  number_pos : 1 ≤ number
  number_le : number ≤ source.lines.length

/-- A code block lies in a text, with room for its code between its first and its last line. -/
structure CodeBlock.LiesIn (source : Source) (block : CodeBlock) : Prop where
  span_liesIn : block.span.LiesIn source
  last_hasLine : source.HasLine block.span.last
  code_fits : block.span.first + (splitAt '\n' block.code.toList).length ≤ block.span.last

/-- A section lies in a text with all that it holds. -/
structure Section.LiesIn (source : Source) (part : Section) : Prop where
  span_liesIn : part.span.LiesIn source
  last_hasLine : source.HasLine part.span.last
  lines_hasLine : ∀ line ∈ part.lines, source.HasLine line.number
  headings_hasLine : ∀ heading ∈ part.headings, source.HasLine heading.line
  codeBlocks_liesIn : ∀ block ∈ part.codeBlocks, block.LiesIn source

namespace Source

theorem hasLine_of_mem {source : Source} {line : Line} (member : line ∈ source.lines) :
    source.HasLine line.number := by
  obtain ⟨_, _, positive, bound, _⟩ := mem_lines member
  exact ⟨positive, bound⟩

theorem HasLine.liesIn_line {source : Source} {number : Nat} (there : source.HasLine number) :
    (Span.line number).LiesIn source :=
  Span.liesIn_line there.number_pos (Nat.le_trans there.number_le (Nat.le_max_right 1 _))

/-- Lines of a text, from one to a later one, are a span of it. -/
theorem liesIn_of_mem {source : Source} {first last : Line} (start : first ∈ source.lines)
    (stop : last ∈ source.lines) (order : first.number ≤ last.number) :
    Span.LiesIn source ⟨first.number, last.number, some first.offset⟩ where
  first_pos := (hasLine_of_mem start).number_pos
  first_le_last := order
  last_le := Nat.le_trans (hasLine_of_mem stop).number_le (Nat.le_max_right 1 _)
  offset_begins := by
    rintro bytes ⟨⟩
    exact beginsAt_of_mem start

/-- The lines from the first one on are a span of a text. -/
theorem liesIn_of_hasLine {source : Source} {number : Nat} (there : source.HasLine number) :
    Span.LiesIn source ⟨1, number, some 0⟩ where
  first_pos := Nat.le_refl 1
  first_le_last := there.number_pos
  last_le := Nat.le_trans there.number_le (Nat.le_max_right 1 _)
  offset_begins := by
    rintro bytes ⟨⟩
    exact source.beginsAt_one

end Source

/-! ### Blocks -/

namespace Body

/-- The code of a code block has as many lines as stand between its fences, but at least one. -/
theorem length_splitAt_code {source : Source} {inner : List Line}
    (within : ∀ line ∈ inner, line ∈ source.lines) :
    (splitAt '\n' ("\n".intercalate (inner.map Line.text)).toList).length =
      max 1 inner.length := by
  rw [String.toList_intercalate, List.map_map]
  cases inner with
  | nil => rfl
  | cons line rest =>
    rw [show "\n".toList = ['\n'] from rfl, splitAt_intercalate _ (by simp)]
    · simp
    · intro piece member linefeed
      obtain ⟨own, inInner, rfl⟩ := List.mem_map.mp member
      rw [Function.comp_apply, Line.text, String.toList_ofList] at linefeed
      have noBreak := Source.isLineBreak_of_mem (within own inInner) linefeed
      exact absurd noBreak (by decide)

end Body

namespace Block

variable {source : Source} {front back : List Line} {block : Block}

/-- The line that opens a code block, those that are its code and the one that closes it follow each
other in the text. -/
theorem exists_codeLines (cut : source.lines = front ++ (block.lines ++ back)) {code : CodeBlock}
    (member : code ∈ block.part.codeBlocks) :
    ∃ opener ∈ source.lines, ∃ closer ∈ source.lines, ∃ inner : List Line,
      (∀ line ∈ inner, line ∈ source.lines) ∧
        closer.number = opener.number + inner.length + 1 ∧
        code.code = "\n".intercalate (inner.map Line.text) ∧
        code.span = ⟨opener.number, closer.number, some opener.offset⟩ := by
  obtain ⟨before, opener, inner, closer, after, fence, body, _, rfl⟩ :=
    Body.exists_of_mem_codeBlocks member
  have opening : source.lines =
      (front ++ block.heading :: before) ++ opener :: (inner ++ closer :: (after ++ back)) := by
    simp [cut, lines, body]
  have closing : source.lines =
      (front ++ block.heading :: (before ++ opener :: inner)) ++ closer :: (after ++ back) := by
    simp [cut, lines, body]
  refine ⟨opener, by simp [opening], closer, by simp [opening], inner, ?_, ?_, rfl, rfl⟩
  · intro line inInner
    rw [opening]
    simp [inInner]
  · rw [Source.number_eq_of_split opening, Source.number_eq_of_split closing]
    simp only [List.length_append, List.length_cons]
    omega

theorem codeBlock_liesIn (cut : source.lines = front ++ (block.lines ++ back)) {code : CodeBlock}
    (member : code ∈ block.part.codeBlocks) : code.LiesIn source := by
  obtain ⟨opener, openerMember, closer, closerMember, inner, innerMembers, lengths, text, span⟩ :=
    exists_codeLines cut member
  have fits : opener.number + (splitAt '\n' code.code.toList).length ≤ closer.number := by
    rw [text, Body.length_splitAt_code innerMembers]
    omega
  constructor
  · rw [span]
    exact Source.liesIn_of_mem openerMember closerMember (by omega)
  · rw [span]
    exact Source.hasLine_of_mem closerMember
  · rw [span]
    exact fits

/-- A block whose lines follow each other in a text makes a section that lies in it. -/
theorem part_liesIn (cut : source.lines = front ++ (block.lines ++ back)) :
    block.part.LiesIn source := by
  have headingMember : block.heading ∈ source.lines := by simp [cut, lines]
  have bodyMembers : ∀ line ∈ block.body, line ∈ source.lines := by
    intro line member
    simp [cut, lines, member]
  have spanOf : block.part.span.LiesIn source ∧ source.HasLine block.part.span.last := by
    rw [part_span]
    rcases block.lastLine_mem with same | ⟨line, member, same⟩
    · rw [same]
      exact ⟨Source.liesIn_of_mem headingMember headingMember (Nat.le_refl _),
        Source.hasLine_of_mem headingMember⟩
    · rw [same]
      refine ⟨Source.liesIn_of_mem headingMember (bodyMembers line member) ?_,
        Source.hasLine_of_mem (bodyMembers line member)⟩
      obtain ⟨before, after, body⟩ := List.append_of_mem member
      have first : source.lines = front ++ block.heading :: (block.body ++ back) := cut
      have last : source.lines =
          (front ++ block.heading :: before) ++ line :: (after ++ back) := by
        simp [cut, lines, body]
      rw [Source.number_eq_of_split first, Source.number_eq_of_split last]
      simp only [List.length_append, List.length_cons]
      omega
  refine ⟨spanOf.1, spanOf.2, ?_, ?_, fun code member => codeBlock_liesIn cut member⟩
  · intro line member
    obtain ⟨own, inBody, number, _⟩ := Body.exists_of_mem_sourceLines member
    rw [number]
    exact Source.hasLine_of_mem (bodyMembers own inBody)
  · intro heading member
    obtain ⟨own, inBody, number, _⟩ := Body.exists_of_mem_headings member
    rw [number]
    exact Source.hasLine_of_mem (bodyMembers own inBody)

/-- The lines of each of some blocks that follow each other do too. -/
theorem exists_split {blocks : List Block} (member : block ∈ blocks) (preamble : List Line) :
    ∃ front back, preamble ++ blocks.flatMap Block.lines = front ++ (block.lines ++ back) := by
  obtain ⟨before, after, rfl⟩ := List.append_of_mem member
  exact ⟨preamble ++ before.flatMap Block.lines, after.flatMap Block.lines, by simp⟩

end Block

/-! ### Documents -/

namespace Document

/-- Reading a text is reading its lines. -/
theorem ofText_eq_document {text : String} {document : Document}
    (read : ofText text = .ok (document, none)) :
    ofLines (Source.ofString text).lines = .ok (.ok document) := by
  unfold ofText at read
  dsimp only at read
  cases outcome : ofLines (Source.ofString text).lines with
  | error failure =>
    rw [outcome] at read
    cases read
  | ok result =>
    rw [outcome] at read
    cases result with
    | error defect => cases read
    | ok own =>
      cases read
      rfl

theorem ofText_eq_defect {text : String} {document : Document} {defect : FatalDefect}
    (read : ofText text = .ok (document, some defect)) :
    ofLines (Source.ofString text).lines = .ok (.error defect) ∧
      document = ofDefect defect (Source.ofString text).lines.length := by
  unfold ofText at read
  dsimp only at read
  cases outcome : ofLines (Source.ofString text).lines with
  | error failure =>
    rw [outcome] at read
    cases read
  | ok result =>
    rw [outcome] at read
    cases result with
    | ok own => cases read
    | error own =>
      cases read
      exact ⟨rfl, rfl⟩

/-- A text that is read comes to what its lines come to. -/
theorem exists_of_ofText {text : String} {document : Document} {fatal : Option FatalDefect}
    (read : ofText text = .ok (document, fatal)) :
    ∃ result, ofLines (Source.ofString text).lines = .ok result ∧
      (∀ own, result = .ok own → document = own ∧ fatal = none) ∧
      ∀ defect, result = .error defect → fatal = some defect := by
  cases fatal with
  | none =>
    refine ⟨.ok document, ofText_eq_document read, ?_, ?_⟩
    · rintro _ ⟨⟩
      exact ⟨rfl, rfl⟩
    · rintro _ ⟨⟩
  | some defect =>
    refine ⟨.error defect, (ofText_eq_defect read).1, ?_, ?_⟩
    · rintro _ ⟨⟩
    · rintro _ ⟨⟩
      rfl

theorem ofText_of_document {text : String} {document : Document}
    (read : ofLines (Source.ofString text).lines = .ok (.ok document)) :
    ofText text = .ok (document, none) := by
  unfold ofText
  dsimp only
  rw [read]
  rfl

theorem ofText_of_defect {text : String} {defect : FatalDefect}
    (read : ofLines (Source.ofString text).lines = .ok (.error defect)) :
    ofText text =
      .ok (ofDefect defect (Source.ofString text).lines.length, some defect) := by
  unfold ofText
  dsimp only
  rw [read]
  rfl

/-- A document that has been read: its text, and how the lines of the text have been cut. -/
theorem ofText_eq_ok {text : String} {document : Document}
    (read : ofText text = .ok (document, none)) :
    ∃ (preamble : List Line) (blocks : List Block),
      document.IsCutFrom (Source.ofString text).lines preamble blocks ∧
        ∀ block ∈ blocks, block.IsComplete := by
  obtain ⟨preamble, blocks, cut, complete, _⟩ := ofLines_eq_ok (ofText_eq_document read)
  exact ⟨preamble, blocks, cut, complete⟩

/-- The headings inside the sections that blocks make are on lines of the blocks, in their order. -/
theorem map_line_headings_sublist (blocks : List Block) :
    List.Sublist (((blocks.map Block.part).flatMap (·.headings)).map (·.line))
      ((blocks.flatMap Block.lines).map Line.number) := by
  induction blocks with
  | nil => exact List.Sublist.refl []
  | cons block rest inductionHypothesis =>
    rw [List.map_cons, List.flatMap_cons, List.map_append, List.flatMap_cons, List.map_append]
    refine List.Sublist.append ?_ inductionHypothesis
    exact (Body.map_line_headings_sublist block.body).cons _

/-- The headings inside the sections of a document come one behind the other in its text. -/
theorem pairwise_line_headings {text : String} {document : Document} {fatal : Option FatalDefect}
    (read : ofText text = .ok (document, fatal)) :
    ((document.sections.flatMap (·.headings)).map (·.line)).Pairwise (· < ·) := by
  cases fatal with
  | some defect =>
    rw [(ofText_eq_defect read).2]
    exact List.Pairwise.nil
  | none =>
    have increasing := List.pairwise_map.mpr (Source.ofString text).pairwise_lines
    obtain ⟨preamble, blocks, cut, _⟩ := ofText_eq_ok read
    refine increasing.sublist ?_
    cases cut with
    | bare lines_eq _ sections_eq =>
      rw [lines_eq, sections_eq, List.map_append]
      exact (map_line_headings_sublist blocks).trans (List.sublist_append_right _ _)
    | fronted opener body closer _ lines_eq _ _ sections_eq =>
      have behind : (Source.ofString text).lines =
          (opener :: (body ++ closer :: preamble)) ++ blocks.flatMap Block.lines := by
        simp [lines_eq]
      rw [behind, sections_eq, List.map_append]
      exact (map_line_headings_sublist blocks).trans (List.sublist_append_right _ _)

/-- Every section of a document that has been read lies in its text. -/
theorem section_liesIn {text : String} {document : Document}
    (read : ofText text = .ok (document, none)) {part : Section}
    (member : part ∈ document.sections) : part.LiesIn (Source.ofString text) := by
  obtain ⟨preamble, blocks, cut, _⟩ := ofText_eq_ok read
  cases cut with
  | bare lines_eq _ sections_eq =>
    rw [sections_eq] at member
    obtain ⟨block, inBlocks, rfl⟩ := List.mem_map.mp member
    obtain ⟨front, back, split⟩ := Block.exists_split inBlocks preamble
    exact Block.part_liesIn (lines_eq.trans split)
  | fronted opener body closer frontmatter lines_eq _ _ sections_eq =>
    rw [sections_eq] at member
    rcases List.mem_cons.mp member with rfl | behind
    · have bodyMembers : ∀ line ∈ body, line ∈ (Source.ofString text).lines := by
        intro line inBody
        simp [lines_eq, inBody]
      have closing : (Source.ofString text).HasLine closer.number :=
        Source.hasLine_of_mem (by simp [lines_eq])
      refine ⟨Source.liesIn_of_hasLine closing, closing, ?_, by simp [frontmatterSection],
        by simp [frontmatterSection]⟩
      intro line inLines
      obtain ⟨own, inBody, rfl⟩ := List.mem_map.mp inLines
      exact Source.hasLine_of_mem (bodyMembers own inBody)
    · obtain ⟨block, inBlocks, rfl⟩ := List.mem_map.mp behind
      obtain ⟨front, back, split⟩ := Block.exists_split inBlocks preamble
      have inText : (Source.ofString text).lines =
          (opener :: (body ++ closer :: front)) ++ (block.lines ++ back) := by
        simp [lines_eq, split]
      exact Block.part_liesIn inText

/-- A section of a document that is not the frontmatter is that of a complete block of its text. -/
theorem exists_block {text : String} {document : Document}
    (read : ofText text = .ok (document, none)) {part : Section}
    (member : part ∈ document.sections) (body : part.kind ≠ .frontmatter) :
    ∃ front back block, (Source.ofString text).lines = front ++ (Block.lines block ++ back) ∧
      block.IsComplete ∧ part = block.part := by
  obtain ⟨preamble, blocks, cut, complete⟩ := ofText_eq_ok read
  cases cut with
  | bare lines_eq _ sections_eq =>
    rw [sections_eq] at member
    obtain ⟨block, inBlocks, rfl⟩ := List.mem_map.mp member
    obtain ⟨front, back, split⟩ := Block.exists_split inBlocks preamble
    exact ⟨front, back, block, lines_eq.trans split, complete block inBlocks, rfl⟩
  | fronted opener inner closer _ lines_eq _ _ sections_eq =>
    rw [sections_eq] at member
    rcases List.mem_cons.mp member with rfl | behind
    · exact absurd rfl body
    · obtain ⟨block, inBlocks, rfl⟩ := List.mem_map.mp behind
      obtain ⟨front, back, split⟩ := Block.exists_split inBlocks preamble
      refine ⟨opener :: (inner ++ closer :: front), back, block, ?_, complete block inBlocks, rfl⟩
      simp [lines_eq, split]

/-- The lines of a fatal defect are lines of the text. -/
theorem defect_liesIn {text : String} {document : Document} {defect : FatalDefect}
    (read : ofText text = .ok (document, some defect)) :
    defect.span.LiesIn (Source.ofString text) := by
  rcases ofLines_eq_error (ofText_eq_defect read).1 with
    ⟨line, member, rfl⟩ | rfl | ⟨opener, member, kind, rfl⟩
  · exact Source.liesIn_of_hasLine (Source.hasLine_of_mem member)
  · refine ⟨Nat.le_refl 1, Nat.le_max_right _ 1, Nat.le_of_eq (Nat.max_comm _ 1), ?_⟩
    rintro bytes ⟨⟩
    exact Source.beginsAt_one _
  · have bound := (Source.hasLine_of_mem member).number_le
    refine ⟨(Source.hasLine_of_mem member).number_pos, Nat.le_max_right _ _, ?_, ?_⟩
    · change max _ _ ≤ max 1 _
      omega
    · rintro bytes ⟨⟩
      exact Source.beginsAt_of_mem member

end Document

end LlmTxt

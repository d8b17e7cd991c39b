/-
This file says what some lines behind a heading are, as body lines of a section, without the state
that reading keeps: which of them are code, which headings stand among the others, and which code
blocks they hold. All three hang on one thing only, the code block that is open at each line, and
that is found by going through the lines from the first. So each of them is known for lines with
one more at the end once it is known for those lines.
-/

import LlmTxt.Document.Reading
import Mathlib.Data.List.Induction

namespace LlmTxt

/-- The characters of a line as one text. -/
def Line.text (line : Line) : String :=
  String.ofList line.characters

/-! ### What closes a fence -/

/-- Whether a line closes a fence: it is a fence of the same character, at least as long, and says
nothing. -/
def Fence.isClosedBy (opener : Fence) (line : List Char) : Bool :=
  (Fence.ofLine? line).any (·.closes opener)

theorem fenceAfter_eq (opener : Fence) (line : List Char) :
    fenceAfter (some opener) line = if opener.isClosedBy line then none else some opener := by
  unfold fenceAfter Fence.isClosedBy
  cases Fence.ofLine? line <;> rfl

theorem fenceAfter_eq_none_iff {opener : Fence} {line : List Char} :
    fenceAfter (some opener) line = none ↔ opener.isClosedBy line = true := by
  rw [fenceAfter_eq]
  cases opener.isClosedBy line <;> simp

theorem fenceAfter_eq_some_iff {opener : Fence} {line : List Char} :
    fenceAfter (some opener) line = some opener ↔ opener.isClosedBy line = false := by
  rw [fenceAfter_eq]
  cases opener.isClosedBy line <;> simp

namespace Body

/-! ### The code block that is open -/

/-- The code block that is open behind a line, given the one that is open before it. -/
def codeStep (code : Option OpenCode) (line : Line) : Option OpenCode :=
  match code with
  | some block =>
    if (fenceAfter (some block.fence) line.characters).isSome then
      some { block with code := block.code.push line.text }
    else none
  | none =>
    (Fence.ofLine? line.characters).map fun fence => ⟨fence, line.number, line.offset, #[]⟩

/-- The code block that is open behind some lines. -/
def openCode (lines : List Line) : Option OpenCode :=
  lines.foldl codeStep none

theorem openCode_concat (lines : List Line) (line : Line) :
    openCode (lines ++ [line]) = codeStep (openCode lines) line := by
  simp only [openCode, List.foldl_append, List.foldl_cons, List.foldl_nil]

/-- Whether a line is code, given the code block that is open before it: fences are code too. -/
def isCode (code : Option OpenCode) (line : Line) : Bool :=
  code.isSome || (codeStep code line).isSome

theorem codeStep_inside {block : OpenCode} {line : Line}
    (inside : block.fence.isClosedBy line.characters = false) :
    codeStep (some block) line = some { block with code := block.code.push line.text } := by
  unfold codeStep
  dsimp only
  rw [fenceAfter_eq_some_iff.mpr inside]
  rfl

theorem codeStep_closes {block : OpenCode} {line : Line}
    (closes : block.fence.isClosedBy line.characters = true) :
    codeStep (some block) line = none := by
  unfold codeStep
  dsimp only
  rw [fenceAfter_eq_none_iff.mpr closes]
  rfl

/-- An open code block began at a fence outside code, no line behind closes it, and its code is all
that came behind. -/
theorem openCode_eq_some {lines : List Line} {block : OpenCode}
    (isOpen : openCode lines = some block) :
    ∃ before opener inner, lines = before ++ opener :: inner ∧ openCode before = none ∧
      Fence.ofLine? opener.characters = some block.fence ∧
      (∀ line ∈ inner, block.fence.isClosedBy line.characters = false) ∧
      block.line = opener.number ∧ block.offset = opener.offset ∧
      block.code.toList = inner.map Line.text := by
  induction lines using List.reverseRecOn generalizing block with
  | nil => cases isOpen
  | append_singleton lines line inductionHypothesis =>
    rw [openCode_concat] at isOpen
    cases before : openCode lines with
    | none =>
      rw [before] at isOpen
      obtain ⟨fence, found, rfl⟩ := Option.map_eq_some_iff.mp isOpen
      exact ⟨lines, line, [], rfl, before, found, by simp, rfl, rfl, rfl⟩
    | some earlier =>
      obtain ⟨front, opener, inner, cut, outside, found, inside, number, offset, code⟩ :=
        inductionHypothesis before
      rw [before] at isOpen
      cases closes : earlier.fence.isClosedBy line.characters with
      | true =>
        rw [codeStep_closes closes] at isOpen
        cases isOpen
      | false =>
        rw [codeStep_inside closes] at isOpen
        cases isOpen
        refine ⟨front, opener, inner ++ [line], by simp [cut], outside, found, ?_, number, offset,
          by simp [code]⟩
        intro other member
        rcases List.mem_append.mp member with earlier | last
        · exact inside other earlier
        · rw [List.mem_singleton.mp last]
          exact closes

/-! ### Body lines, headings and code blocks -/

/-- The body lines that lines are, from a place where a code block may be open. -/
def sourceLinesFrom (code : Option OpenCode) : List Line → List SourceLine
  | [] => []
  | line :: rest =>
    ⟨line.number, line.text, isCode code line⟩ :: sourceLinesFrom (codeStep code line) rest

/-- The body lines that lines are. -/
def sourceLines (lines : List Line) : List SourceLine :=
  sourceLinesFrom none lines

/-- The heading that a line is, unless it is code. -/
def headingAt (code : Option OpenCode) (line : Line) : List Heading :=
  if isCode code line then []
  else
    match Heading.ofLine? line.characters with
    | some (level, title) => [⟨level, String.ofList title, line.number⟩]
    | none => []

/-- The headings among lines, from a place where a code block may be open. -/
def headingsFrom (code : Option OpenCode) : List Line → List Heading
  | [] => []
  | line :: rest => headingAt code line ++ headingsFrom (codeStep code line) rest

/-- The headings among lines. -/
def headings (lines : List Line) : List Heading :=
  headingsFrom none lines

/-- The code block that ends on a line. -/
def codeBlockAt (code : Option OpenCode) (line : Line) : List CodeBlock :=
  match code, codeStep code line with
  | some block, none => [block.close line.number]
  | _, _ => []

/-- The code blocks that end among lines, from a place where a code block may be open. -/
def codeBlocksFrom (code : Option OpenCode) : List Line → List CodeBlock
  | [] => []
  | line :: rest => codeBlockAt code line ++ codeBlocksFrom (codeStep code line) rest

/-- The code blocks that end among lines. -/
def codeBlocks (lines : List Line) : List CodeBlock :=
  codeBlocksFrom none lines

theorem sourceLinesFrom_append (code : Option OpenCode) (front back : List Line) :
    sourceLinesFrom code (front ++ back) =
      sourceLinesFrom code front ++ sourceLinesFrom (front.foldl codeStep code) back := by
  induction front generalizing code with
  | nil => rfl
  | cons line rest inductionHypothesis =>
    rw [List.cons_append, sourceLinesFrom, sourceLinesFrom, inductionHypothesis,
      List.cons_append, List.foldl_cons]

theorem headingsFrom_append (code : Option OpenCode) (front back : List Line) :
    headingsFrom code (front ++ back) =
      headingsFrom code front ++ headingsFrom (front.foldl codeStep code) back := by
  induction front generalizing code with
  | nil => rfl
  | cons line rest inductionHypothesis =>
    rw [List.cons_append, headingsFrom, headingsFrom, inductionHypothesis, List.append_assoc,
      List.foldl_cons]

theorem codeBlocksFrom_append (code : Option OpenCode) (front back : List Line) :
    codeBlocksFrom code (front ++ back) =
      codeBlocksFrom code front ++ codeBlocksFrom (front.foldl codeStep code) back := by
  induction front generalizing code with
  | nil => rfl
  | cons line rest inductionHypothesis =>
    rw [List.cons_append, codeBlocksFrom, codeBlocksFrom, inductionHypothesis, List.append_assoc,
      List.foldl_cons]

theorem sourceLines_concat (lines : List Line) (line : Line) :
    sourceLines (lines ++ [line]) =
      sourceLines lines ++ [⟨line.number, line.text, isCode (openCode lines) line⟩] :=
  sourceLinesFrom_append none lines [line]

theorem headings_concat (lines : List Line) (line : Line) :
    headings (lines ++ [line]) = headings lines ++ headingAt (openCode lines) line := by
  unfold headings
  rw [headingsFrom_append, headingsFrom, headingsFrom, List.append_nil]
  rfl

theorem codeBlocks_concat (lines : List Line) (line : Line) :
    codeBlocks (lines ++ [line]) = codeBlocks lines ++ codeBlockAt (openCode lines) line := by
  unfold codeBlocks
  rw [codeBlocksFrom_append, codeBlocksFrom, codeBlocksFrom, List.append_nil]
  rfl

/-- The numbers and texts of body lines are those of the lines. -/
theorem map_sourceLines (lines : List Line) :
    (sourceLines lines).map (fun line => (line.number, line.text)) =
      lines.map fun line => (line.number, line.text) := by
  induction lines using List.reverseRecOn with
  | nil => rfl
  | append_singleton lines line inductionHypothesis =>
    rw [sourceLines_concat, List.map_append, List.map_append, inductionHypothesis]
    rfl

theorem exists_of_mem_sourceLines {lines : List Line} {line : SourceLine}
    (member : line ∈ sourceLines lines) :
    ∃ own ∈ lines, line.number = own.number ∧ line.text = own.text := by
  have pair : (line.number, line.text) ∈
      (sourceLines lines).map fun line => (line.number, line.text) :=
    List.mem_map_of_mem member
  rw [map_sourceLines] at pair
  obtain ⟨own, inLines, equal⟩ := List.mem_map.mp pair
  exact ⟨own, inLines, (Prod.mk.inj equal).1.symm, (Prod.mk.inj equal).2.symm⟩

theorem exists_of_mem_headings {lines : List Line} {heading : Heading}
    (member : heading ∈ headings lines) :
    ∃ own ∈ lines, heading.line = own.number ∧
      ∃ title, Heading.ofLine? own.characters = some (heading.level, title) := by
  induction lines using List.reverseRecOn with
  | nil => cases member
  | append_singleton lines line inductionHypothesis =>
    rw [headings_concat] at member
    rcases List.mem_append.mp member with earlier | last
    · obtain ⟨own, inLines, rest⟩ := inductionHypothesis earlier
      exact ⟨own, List.mem_append_left _ inLines, rest⟩
    · unfold headingAt at last
      split at last
      · cases last
      · split at last
        · rename_i level title found
          rw [List.mem_singleton.mp last]
          exact ⟨line, by simp, rfl, title, found⟩
        · cases last

/-- The headings among lines are on some of them, in their order. -/
theorem map_line_headings_sublist (lines : List Line) :
    List.Sublist ((headings lines).map (·.line)) (lines.map Line.number) := by
  induction lines using List.reverseRecOn with
  | nil => exact List.Sublist.refl []
  | append_singleton lines line inductionHypothesis =>
    rw [headings_concat, List.map_append, List.map_append]
    refine inductionHypothesis.append ?_
    unfold headingAt
    split
    · exact List.nil_sublist _
    · split
      · exact List.Sublist.refl _
      · exact List.nil_sublist _

/-- A code block stands between the line that opens it and the line that closes it, and holds the
lines between. -/
theorem exists_of_mem_codeBlocks {lines : List Line} {block : CodeBlock}
    (member : block ∈ codeBlocks lines) :
    ∃ before opener inner closer after fence,
      lines = before ++ opener :: (inner ++ closer :: after) ∧
        Fence.ofLine? opener.characters = some fence ∧
        block = ⟨fence.language.map String.ofList, "\n".intercalate (inner.map Line.text),
          ⟨opener.number, closer.number, some opener.offset⟩⟩ := by
  induction lines using List.reverseRecOn with
  | nil => cases member
  | append_singleton lines line inductionHypothesis =>
    rw [codeBlocks_concat] at member
    rcases List.mem_append.mp member with earlier | last
    · obtain ⟨before, opener, inner, closer, after, fence, cut, rest⟩ :=
        inductionHypothesis earlier
      exact ⟨before, opener, inner, closer, after ++ [line], fence, by simp [cut], rest⟩
    · unfold codeBlockAt at last
      split at last
      · rename_i block isOpen _
        obtain ⟨before, opener, inner, cut, _, found, _, number, offset, code⟩ :=
          openCode_eq_some isOpen
        refine ⟨before, opener, inner, line, [], block.fence, by simp [cut], found, ?_⟩
        rw [List.mem_singleton.mp last, OpenCode.close, number, offset, code]
      · cases last

/-! ### Lines without fences -/

section Plain

variable {line : Line} {lines : List Line}

theorem codeStep_of_plain (noFence : Fence.ofLine? line.characters = none) :
    codeStep none line = none := by
  rw [codeStep, noFence]
  rfl

theorem isCode_of_plain (noFence : Fence.ofLine? line.characters = none) :
    isCode none line = false := by
  rw [isCode, codeStep_of_plain noFence]
  rfl

theorem sourceLines_of_plain (plain : ∀ line ∈ lines, Fence.ofLine? line.characters = none) :
    sourceLines lines = lines.map fun line => ⟨line.number, line.text, false⟩ := by
  unfold sourceLines
  induction lines with
  | nil => rfl
  | cons line rest inductionHypothesis =>
    have own := plain line List.mem_cons_self
    rw [sourceLinesFrom, codeStep_of_plain own, isCode_of_plain own, List.map_cons,
      inductionHypothesis fun other later => plain other (List.mem_cons_of_mem _ later)]

theorem codeBlocks_of_plain (plain : ∀ line ∈ lines, Fence.ofLine? line.characters = none) :
    codeBlocks lines = [] := by
  unfold codeBlocks
  induction lines with
  | nil => rfl
  | cons line rest inductionHypothesis =>
    have noBlock : codeBlockAt none line = [] := rfl
    rw [codeBlocksFrom, noBlock, codeStep_of_plain (plain line List.mem_cons_self),
      inductionHypothesis fun other later => plain other (List.mem_cons_of_mem _ later)]
    rfl

/-- Without fences, the headings are all lines that are headings. -/
theorem headings_of_plain (plain : ∀ line ∈ lines, Fence.ofLine? line.characters = none) :
    (headings lines).map (fun heading => (heading.level, heading.text.toList)) =
      (lines.map Line.characters).filterMap Heading.ofLine? := by
  unfold headings
  induction lines with
  | nil => rfl
  | cons line rest inductionHypothesis =>
    have own := plain line List.mem_cons_self
    rw [headingsFrom, headingAt, codeStep_of_plain own, isCode_of_plain own, List.map_append,
      inductionHypothesis fun other later => plain other (List.mem_cons_of_mem _ later),
      List.map_cons, List.filterMap_cons]
    cases Heading.ofLine? line.characters with
    | none => rfl
    | some found => simp

end Plain

end Body

end LlmTxt

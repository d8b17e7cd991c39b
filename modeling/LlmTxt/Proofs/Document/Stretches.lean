/-
This file takes the lines of a section apart into stretches of code and lines of prose. Where no code
block is left open, every line is either no fence and stands outside code, or opens a stretch that
goes on up to the first fence that closes it. This is the shape over which statements about the body
of a section are proved: a line of prose is a body line outside code and brings no code block, and a
stretch of code brings exactly one, all of whose lines are code.
-/

import LlmTxt.Proofs.Document.Passages

namespace LlmTxt

namespace Body

/-! ### Stretches -/

/-- Some lines are a stretch of code: the first opens a fence, the last closes it, and none between
does. -/
structure IsCode (fence : Fence) (opener : Line) (inner : List Line) (closer : Line) : Prop where
  opens : Fence.ofLine? opener.characters = some fence
  inside : ∀ line ∈ inner, fence.isClosedBy line.characters = false
  closes : fence.isClosedBy closer.characters = true

/-- Lines that are stretches of code and lines of prose between them. -/
inductive IsStretched : List Line → Prop where
  | nil : IsStretched []
  | prose {line : Line} {rest : List Line} (noFence : Fence.ofLine? line.characters = none)
      (further : IsStretched rest) : IsStretched (line :: rest)
  | code {fence : Fence} {opener : Line} {inner : List Line} {closer : Line} {rest : List Line}
      (isCode : IsCode fence opener inner closer) (further : IsStretched rest) :
      IsStretched (opener :: (inner ++ closer :: rest))

/-- Where an open code block is closed in the end, some line is the first that closes it. -/
theorem exists_closer {block : OpenCode} {lines : List Line}
    (closed : lines.foldl codeStep (some block) = none) :
    ∃ inner closer rest, lines = inner ++ closer :: rest ∧
      (∀ line ∈ inner, block.fence.isClosedBy line.characters = false) ∧
      block.fence.isClosedBy closer.characters = true ∧ rest.foldl codeStep none = none := by
  induction lines generalizing block with
  | nil => cases closed
  | cons line rest inductionHypothesis =>
    rw [List.foldl_cons] at closed
    cases closes : block.fence.isClosedBy line.characters with
    | true =>
      rw [codeStep_closes closes] at closed
      exact ⟨[], line, rest, rfl, by simp, closes, closed⟩
    | false =>
      rw [codeStep_inside closes] at closed
      obtain ⟨inner, closer, behind, cut, inside, own, outside⟩ := inductionHypothesis closed
      refine ⟨line :: inner, closer, behind, by rw [cut]; rfl, ?_, own, outside⟩
      exact List.forall_mem_cons.mpr ⟨closes, inside⟩

/-- Lines that leave no code block open are stretches. -/
theorem isStretched_of_openCode : ∀ {lines : List Line}, openCode lines = none → IsStretched lines
  | [], _ => .nil
  | line :: rest, closed => by
    unfold openCode at closed
    rw [List.foldl_cons] at closed
    cases opens : Fence.ofLine? line.characters with
    | none =>
      rw [codeStep_of_plain opens] at closed
      exact .prose opens (isStretched_of_openCode closed)
    | some fence =>
      rw [codeStep, opens, Option.map_some] at closed
      obtain ⟨inner, closer, behind, rfl, inside, closes, outside⟩ := exists_closer closed
      exact .code ⟨opens, inside, closes⟩ (isStretched_of_openCode outside)
termination_by lines => lines.length

/-! ### What stretches become -/

/-- A line of code as a body line. -/
def codeLine (line : Line) : SourceLine :=
  ⟨line.number, line.text, true⟩

theorem foldl_codeStep_inside {block : OpenCode} {inner : List Line}
    (inside : ∀ line ∈ inner, block.fence.isClosedBy line.characters = false) :
    inner.foldl codeStep (some block) =
      some { block with code := block.code ++ (inner.map Line.text).toArray } := by
  induction inner generalizing block with
  | nil => simp
  | cons line rest inductionHypothesis =>
    obtain ⟨own, others⟩ := List.forall_mem_cons.mp inside
    have further :=
      @inductionHypothesis { block with code := block.code.push line.text } others
    rw [List.foldl_cons, codeStep_inside own, further]
    simp

theorem sourceLinesFrom_inside {block : OpenCode} {inner : List Line}
    (inside : ∀ line ∈ inner, block.fence.isClosedBy line.characters = false) :
    sourceLinesFrom (some block) inner = inner.map codeLine := by
  induction inner generalizing block with
  | nil => rfl
  | cons line rest inductionHypothesis =>
    obtain ⟨own, others⟩ := List.forall_mem_cons.mp inside
    have further :=
      @inductionHypothesis { block with code := block.code.push line.text } others
    rw [sourceLinesFrom, codeStep_inside own, further]
    rfl

theorem codeBlocksFrom_inside {block : OpenCode} {inner : List Line}
    (inside : ∀ line ∈ inner, block.fence.isClosedBy line.characters = false) (rest : List Line) :
    codeBlocksFrom (some block) (inner ++ rest) =
      codeBlocksFrom (some { block with code := block.code ++ (inner.map Line.text).toArray })
        rest := by
  induction inner generalizing block with
  | nil => simp
  | cons line more inductionHypothesis =>
    obtain ⟨own, others⟩ := List.forall_mem_cons.mp inside
    have noBlock : codeBlockAt (some block) line = [] := by
      unfold codeBlockAt
      rw [codeStep_inside own]
    have further :=
      @inductionHypothesis { block with code := block.code.push line.text } others
    rw [List.cons_append, codeBlocksFrom, noBlock, codeStep_inside own, List.nil_append, further]
    simp

section Prose

variable {line : Line} (noFence : Fence.ofLine? line.characters = none) (rest : List Line)

include noFence

theorem sourceLines_prose :
    sourceLines (line :: rest) = ⟨line.number, line.text, false⟩ :: sourceLines rest := by
  unfold sourceLines
  rw [sourceLinesFrom, isCode_of_plain noFence, codeStep_of_plain noFence]

theorem codeBlocks_prose : codeBlocks (line :: rest) = codeBlocks rest := by
  have noBlock : codeBlockAt none line = [] := rfl
  unfold codeBlocks
  rw [codeBlocksFrom, noBlock, codeStep_of_plain noFence, List.nil_append]

end Prose

section Code

variable {fence : Fence} {opener closer : Line} {inner : List Line}

theorem IsCode.codeStep_opener (isCode : IsCode fence opener inner closer) :
    codeStep none opener = some ⟨fence, opener.number, opener.offset, #[]⟩ := by
  rw [codeStep, isCode.opens]
  rfl

theorem IsCode.sourceLines_eq (isCode : IsCode fence opener inner closer) (rest : List Line) :
    sourceLines (opener :: (inner ++ closer :: rest)) =
      (opener :: (inner ++ [closer])).map codeLine ++ sourceLines rest := by
  have flagged : Body.isCode none opener = true := by
    rw [Body.isCode, isCode.codeStep_opener]
    rfl
  have inside := isCode.inside
  unfold sourceLines
  rw [sourceLinesFrom, flagged, isCode.codeStep_opener, sourceLinesFrom_append,
    sourceLinesFrom_inside inside, foldl_codeStep_inside inside, sourceLinesFrom,
    codeStep_closes isCode.closes]
  simp only [List.map_cons, List.map_append, List.map_nil, List.cons_append, List.append_assoc,
    List.nil_append]
  rfl

/-- A stretch of code brings one code block. -/
theorem IsCode.codeBlocks_eq (isCode : IsCode fence opener inner closer) (rest : List Line) :
    codeBlocks (opener :: (inner ++ closer :: rest)) =
      ⟨fence.language.map String.ofList, "\n".intercalate (inner.map Line.text),
        ⟨opener.number, closer.number, some opener.offset⟩⟩ :: codeBlocks rest := by
  have noBlock : codeBlockAt none opener = [] := rfl
  have closes (code : Array String) :
      codeStep (some ⟨fence, opener.number, opener.offset, code⟩) closer = none :=
    codeStep_closes isCode.closes
  unfold codeBlocks
  rw [codeBlocksFrom, noBlock, isCode.codeStep_opener, List.nil_append,
    codeBlocksFrom_inside isCode.inside, codeBlocksFrom]
  simp [codeBlockAt, closes, OpenCode.close]

end Code

end Body

end LlmTxt

/-
This file takes the text of code out of a document, and says what is left of one line. Two texts
are the same outside code when their lines are the same, but for lines inside code: a code block is
open in both texts there, and neither of the two lines closes it. Such a line leaves behind that
there is a line of code, and its number. Every other line leaves behind the same in both texts, and
the code block that is open behind it begins with the same fence on the same line.

The one thing that a section says of the text of its code is whether there is anything but white
space in it. But code begins with a fence, and a fence is not blank.
-/

import LlmTxt.Proofs.Document.Standing

namespace LlmTxt

open Text

/-! ### Documents without the text of their code -/

/-- A span without its offset. -/
def Span.unplaced (span : Span) : Span :=
  { span with offset := none }

/-- A diagnostic without the offset of its span. -/
def Diagnostic.unplaced (diagnostic : Diagnostic) : Diagnostic :=
  { diagnostic with span := diagnostic.span.unplaced }

/-- A body line that is the same for all code. Like a fence, it is not blank. -/
def SourceLine.masked (line : SourceLine) : SourceLine :=
  if line.inCode then { line with text := "~~~" } else line

/-- A code block without its code: its language and its lines. -/
def CodeBlock.masked (block : CodeBlock) : CodeBlock :=
  { block with code := "", span := block.span.unplaced }

/-- A section without the text of its code and without offsets. -/
def Section.masked (part : Section) : Section :=
  { part with
    span := part.span.unplaced
    lines := part.lines.map SourceLine.masked
    codeBlocks := part.codeBlocks.map CodeBlock.masked }

/-- A document without the text of its code and without the offsets of its sections. -/
def Document.masked (document : Document) : Document :=
  { document with sections := document.sections.map Section.masked }

/-! ### Bodies that are the same outside code -/

/-- Lines that are the same outside code, given the fence that is open before them. Where they
differ, a fence is open, and neither of the two lines closes it. -/
inductive SameOutsideCode : Option Fence → List (List Char) → List (List Char) → Prop where
  | nil {fence : Option Fence} : SameOutsideCode fence [] []
  | same {fence : Option Fence} {rest others : List (List Char)} (line : List Char)
      (further : SameOutsideCode (fenceAfter fence line) rest others) :
      SameOutsideCode fence (line :: rest) (line :: others)
  | inside {fence : Fence} {rest others : List (List Char)} {line other : List Char}
      (stays : fenceAfter (some fence) line = some fence)
      (alsoStays : fenceAfter (some fence) other = some fence)
      (further : SameOutsideCode (some fence) rest others) :
      SameOutsideCode (some fence) (line :: rest) (other :: others)

namespace SameOutsideCode

theorem refl (fence : Option Fence) (lines : List (List Char)) :
    SameOutsideCode fence lines lines := by
  induction lines generalizing fence with
  | nil => exact .nil
  | cons line rest inductionHypothesis => exact .same line (inductionHypothesis _)

theorem length_eq {fence : Option Fence} {lines others : List (List Char)}
    (same : SameOutsideCode fence lines others) : lines.length = others.length := by
  induction same with
  | nil => rfl
  | same _ _ inductionHypothesis => exact congrArg (· + 1) inductionHypothesis
  | inside _ _ _ inductionHypothesis => exact congrArg (· + 1) inductionHypothesis

theorem head_eq {lines others : List (List Char)}
    (same : SameOutsideCode none lines others) : lines.head? = others.head? := by
  cases same <;> rfl

theorem cons_iff {fence : Option Fence} {line other : List Char} {rest others : List (List Char)} :
    SameOutsideCode fence (line :: rest) (other :: others) ↔
      (line = other ∨ fence.isSome = true ∧ fenceAfter fence line = fence ∧
        fenceAfter fence other = fence) ∧
      SameOutsideCode (fenceAfter fence line) rest others := by
  constructor
  · intro same
    cases same with
    | same _ further => exact ⟨Or.inl rfl, further⟩
    | inside stays alsoStays further =>
      rw [stays]
      exact ⟨Or.inr ⟨rfl, rfl, alsoStays⟩, further⟩
  · rintro ⟨rfl | ⟨isOpen, stays, alsoStays⟩, further⟩
    · exact .same line further
    · obtain ⟨opener, rfl⟩ := Option.isSome_iff_exists.mp isOpen
      rw [stays] at further
      exact .inside stays alsoStays further

/-- Whether lines are the same outside code is found by going through them once. -/
instance decidable : (fence : Option Fence) → (lines others : List (List Char)) →
    Decidable (SameOutsideCode fence lines others)
  | _, [], [] => isTrue .nil
  | _, [], _ :: _ => isFalse nofun
  | _, _ :: _, [] => isFalse nofun
  | fence, line :: rest, _ :: others =>
    have := decidable (fenceAfter fence line) rest others
    decidable_of_iff _ cons_iff.symm

end SameOutsideCode

/-- Two texts differ in nothing but lines inside the code of their bodies, which begin where the
frontmatter of a document ends. -/
def Document.DifferInCode (document : Document) (text other : String) : Prop :=
  let lines := (Source.ofString text).lines.map Line.characters
  let others := (Source.ofString other).lines.map Line.characters
  let start := (document.frontmatter.map (·.span.last)).getD 0
  lines.take start = others.take start ∧
    SameOutsideCode none (lines.drop start) (others.drop start)

instance (document : Document) (text other : String) :
    Decidable (document.DifferInCode text other) :=
  inferInstanceAs (Decidable (_ ∧ _))

/-! ### What is not blank -/

/-- A fence is not blank. -/
theorem Fence.isAllBlank_eq_false {line : List Char} {fence : Fence}
    (found : Fence.ofLine? line = some fence) : isAllBlank line = false := by
  unfold Fence.ofLine? at found
  split at found
  · cases found
  · rename_i marker rest indented
    split at found
    · rename_i isMarker
      have member : marker ∈ line := by
        have inRest : marker ∈ dropIndent line := indented ▸ List.mem_cons_self
        exact List.mem_of_mem_drop inRest
      have visible : isBlank marker = false := by
        unfold Fence.isMarker at isMarker
        rw [Bool.or_eq_true, beq_iff_eq, beq_iff_eq] at isMarker
        rcases isMarker with rfl | rfl <;> decide
      refine List.all_eq_false.mpr ⟨marker, member, ?_⟩
      rw [visible]
      exact Bool.false_ne_true
    · cases found

/-- A line that closes a fence is a fence. -/
theorem isAllBlank_eq_false_of_closes {fence : Fence} {line : List Char}
    (closes : fenceAfter (some fence) line = none) : isAllBlank line = false := by
  unfold fenceAfter at closes
  cases found : Fence.ofLine? line with
  | none =>
    rw [found] at closes
    cases closes
  | some candidate => exact Fence.isAllBlank_eq_false found

namespace Body

/-- Code begins with a fence: where a line is code, it or a line before it is not blank. -/
theorem visible_of_isCode {lines : List Line} {line : Line}
    (code : isCode (openCode lines) line = true) :
    (sourceLines lines).any (fun line => !line.isBlank) = true ∨
      isAllBlank line.characters = false := by
  unfold isCode at code
  cases before : openCode lines with
  | none =>
    rw [before, Option.isSome_none, Bool.false_or, codeStep, Option.isSome_map] at code
    obtain ⟨fence, found⟩ := Option.isSome_iff_exists.mp code
    exact Or.inr (Fence.isAllBlank_eq_false found)
  | some block =>
    obtain ⟨front, opener, inner, rfl, _, found, _⟩ := openCode_eq_some before
    have pair : (opener.number, opener.text) ∈
        (sourceLines (front ++ opener :: inner)).map fun line => (line.number, line.text) := by
      rw [map_sourceLines]
      exact List.mem_map_of_mem (by simp)
    obtain ⟨shown, member, same⟩ := List.mem_map.mp pair
    refine Or.inl (List.any_eq_true.mpr ⟨shown, member, ?_⟩)
    unfold SourceLine.isBlank
    rw [(Prod.mk.inj same).2, Line.text, String.toList_ofList, Fence.isAllBlank_eq_false found]
    rfl

/-- Masking keeps whether there is anything but white space among body lines. -/
theorem any_masked_sourceLines (lines : List Line) :
    ((sourceLines lines).map SourceLine.masked).any (fun line => !line.isBlank) =
      (sourceLines lines).any fun line => !line.isBlank := by
  induction lines using List.reverseRecOn with
  | nil => rfl
  | append_singleton lines line inductionHypothesis =>
    rw [sourceLines_concat, List.map_append, List.any_append, List.any_append,
      inductionHypothesis]
    cases code : isCode (openCode lines) line with
    | false => rfl
    | true =>
      rcases visible_of_isCode code with before | own
      · rw [before, Bool.true_or, Bool.true_or]
      · have shown : SourceLine.isBlank ⟨line.number, line.text, true⟩ = false := by
          unfold SourceLine.isBlank Line.text
          rw [String.toList_ofList]
          exact own
        have fence : isAllBlank "~~~".toList = false := by decide
        have masked : SourceLine.isBlank
            (SourceLine.masked ⟨line.number, line.text, true⟩) = false := fence
        simp only [List.map_singleton, List.any_cons, List.any_nil, shown, masked]

end Body

/-- Whether a section of a document is empty can be told without the text of its code. -/
theorem Document.hasContent_masked {text : String} {document : Document}
    (read : ofText text = .ok (document, none)) {part : Section}
    (member : part ∈ document.sections) : part.masked.hasContent = part.hasContent := by
  have ofBlock (block : Block) : block.part.masked.hasContent = block.part.hasContent :=
    Body.any_masked_sourceLines block.body
  obtain ⟨preamble, blocks, cut, _⟩ := ofText_eq_ok read
  cases cut with
  | bare _ _ sections_eq =>
    rw [sections_eq] at member
    obtain ⟨block, _, rfl⟩ := List.mem_map.mp member
    exact ofBlock block
  | fronted _ body closer _ _ _ _ sections_eq =>
    rw [sections_eq] at member
    rcases List.mem_cons.mp member with rfl | behind
    · have lines : (frontmatterSection body closer.number).masked.lines =
          (frontmatterSection body closer.number).lines := by
        unfold Section.masked frontmatterSection
        dsimp only
        rw [List.map_map]
        rfl
      unfold Section.hasContent
      rw [lines]
    · obtain ⟨block, _, rfl⟩ := List.mem_map.mp behind
      exact ofBlock block

/-! ### One line of two runs -/

/-- A code block that is being read, without its code and its offset. -/
def OpenCode.masked (block : OpenCode) : OpenCode :=
  { block with offset := 0, code := #[] }

/-- Two lines in one place, given the fence that is open before them: they are the same, or
neither closes it. -/
structure SameLine (fence : Option Fence) (line other : Line) : Prop where
  number_eq : line.number = other.number
  same : line.characters = other.characters ∨
    fence.isSome = true ∧ fenceAfter fence line.characters = fence ∧
      fenceAfter fence other.characters = fence

theorem SameLine.fenceAfter_eq {fence : Option Fence} {line other : Line}
    (sameLine : SameLine fence line other) :
    fenceAfter fence line.characters = fenceAfter fence other.characters := by
  rcases sameLine.same with same | ⟨_, stays, alsoStays⟩
  · rw [same]
  · rw [stays, alsoStays]

theorem SameLine.characters_eq {line other : Line} (sameLine : SameLine none line other) :
    line.characters = other.characters := by
  rcases sameLine.same with same | ⟨isOpen, _⟩
  · exact same
  · cases isOpen

namespace Body

theorem code_eq_none_of_isCode {code : Option OpenCode} {line : Line}
    (noCode : isCode code line = false) : code = none := by
  cases code with
  | none => rfl
  | some block => cases noCode

section SameLine

variable {code twin : Option OpenCode} {line other : Line}
  (masked : code.map OpenCode.masked = twin.map OpenCode.masked)
  (sameLine : SameLine (code.map OpenCode.fence) line other)

include masked sameLine

theorem masked_codeStep :
    (codeStep code line).map OpenCode.masked = (codeStep twin other).map OpenCode.masked := by
  cases code with
  | none =>
    have noTwin : twin = none := Option.map_eq_none_iff.mp masked.symm
    rw [noTwin, codeStep, codeStep, sameLine.characters_eq, Option.map_map, Option.map_map]
    simp only [Function.comp_def, OpenCode.masked, sameLine.number_eq]
  | some block =>
    obtain ⟨twinBlock, rfl, blocks⟩ := Option.map_eq_some_iff.mp masked.symm
    have fences : block.fence = twinBlock.fence := (congrArg OpenCode.fence blocks).symm
    have after := sameLine.fenceAfter_eq
    rw [Option.map_some] at after
    unfold codeStep
    dsimp only
    rw [after, ← fences]
    split
    · have lines : block.line = twinBlock.line := (congrArg OpenCode.line blocks).symm
      simp only [Option.map_some, OpenCode.masked, fences, lines]
    · rfl

theorem isCode_eq : isCode code line = isCode twin other := by
  have before := congrArg Option.isSome masked
  have behind := congrArg Option.isSome (masked_codeStep masked sameLine)
  rw [Option.isSome_map, Option.isSome_map] at before behind
  rw [isCode, isCode, before, behind]

theorem headingAt_eq : headingAt code line = headingAt twin other := by
  unfold headingAt
  rw [← isCode_eq masked sameLine]
  cases isCode : isCode code line with
  | true => rfl
  | false =>
    rw [code_eq_none_of_isCode isCode, Option.map_none] at sameLine
    simp only [sameLine.characters_eq, sameLine.number_eq]

theorem masked_codeBlockAt :
    (codeBlockAt code line).map CodeBlock.masked =
      (codeBlockAt twin other).map CodeBlock.masked := by
  have behind := masked_codeStep masked sameLine
  unfold codeBlockAt
  cases code with
  | none =>
    rw [Option.map_eq_none_iff.mp masked.symm]
  | some block =>
    obtain ⟨twinBlock, rfl, blocks⟩ := Option.map_eq_some_iff.mp masked.symm
    have fences : block.fence = twinBlock.fence := (congrArg OpenCode.fence blocks).symm
    have lines : block.line = twinBlock.line := (congrArg OpenCode.line blocks).symm
    cases next : codeStep (some block) line with
    | some stays =>
      rw [next] at behind
      obtain ⟨twinStays, twinNext, _⟩ := Option.map_eq_some_iff.mp behind.symm
      rw [twinNext]
    | none =>
      rw [next] at behind
      rw [Option.map_eq_none_iff.mp behind.symm]
      simp only [List.map_singleton, OpenCode.close, CodeBlock.masked, Span.unplaced, fences,
        lines, sameLine.number_eq]

/-- A line of code leaves its number behind, and any other line its text. -/
theorem masked_sourceLine :
    SourceLine.masked ⟨line.number, line.text, isCode code line⟩ =
      SourceLine.masked ⟨other.number, other.text, isCode twin other⟩ := by
  rw [← isCode_eq masked sameLine, sameLine.number_eq]
  cases isCode : isCode code line with
  | true => rfl
  | false =>
    rw [code_eq_none_of_isCode isCode, Option.map_none] at sameLine
    rw [Line.text, Line.text, sameLine.characters_eq]

end SameLine

/-- Where a line leaves no code block open, it is blank in both runs or in neither, and if it is
blank, no code block has been open before it. -/
theorem isAllBlank_eq {code : Option OpenCode} {line other : Line}
    (sameLine : SameLine (code.map OpenCode.fence) line other)
    (noCode : codeStep code line = none) :
    isAllBlank line.characters = isAllBlank other.characters ∧
      (isAllBlank line.characters = true → code = none) := by
  cases code with
  | none =>
    rw [sameLine.characters_eq]
    exact ⟨rfl, fun _ => rfl⟩
  | some block =>
    have closes : fenceAfter (some block.fence) line.characters = none := by
      have step := fence_codeStep (some block) line
      rw [noCode] at step
      exact step.symm
    have twinCloses := sameLine.fenceAfter_eq.symm.trans closes
    rw [isAllBlank_eq_false_of_closes closes, isAllBlank_eq_false_of_closes twinCloses]
    exact ⟨rfl, nofun⟩

end Body

end LlmTxt

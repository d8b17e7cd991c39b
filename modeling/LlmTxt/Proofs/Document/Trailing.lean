/-
This file reads a text at whose end a section of unknown kind has been put. By itself such a text is
a document of one section, and behind another text this section comes last. It begins there with the
line behind those of the first text: sections are only ever begun, and where one begins is never
changed, whatever is read behind its heading.
-/

import LlmTxt.Proofs.Document.Joining
import LlmTxt.Proofs.Section.Unknown

namespace LlmTxt

/-! ### Where sections begin -/

namespace Reading

/-- The headings of the sections that have been begun, in order. -/
def begun (reading : Reading) : List Span :=
  reading.sections.toList.map Section.headingSpan ++
    reading.current.toList.map fun part => .lineAt part.line part.offset

/-- To end the section that is being read changes nothing of where sections begin. -/
theorem map_headingSpan_closeSection (reading : Reading) :
    reading.closeSection.sections.toList.map Section.headingSpan = reading.begun := by
  unfold begun closeSection
  cases current : reading.current with
  | none => exact (List.append_nil _).symm
  | some part =>
    dsimp only
    rw [Array.toList_push, List.map_append]
    rfl

theorem begun_openSection (reading : Reading) (line : Line) (level : Nat) (title : List Char)
    (kind : SectionKind) (moduleName : Option String) :
    (reading.openSection line level title kind moduleName).begun =
      reading.begun ++ [.lineAt line.number line.offset] := by
  rw [← reading.map_headingSpan_closeSection]
  rfl

/-- Reading a line takes back no section that has been begun. -/
theorem begun_readLine (reading : Reading) (line : Line) :
    reading.begun <+: (reading.readLine line).begun := by
  rcases reading.readLine_cases line with ⟨_, _, _, _, _, _, _, _, read⟩ | extended
  · rw [read, begun_openSection]
    exact List.prefix_append _ _
  · have same : (reading.readLine line).begun = reading.begun := by
      unfold begun
      rw [extended.sections_eq, extended.current_eq]
      cases reading.current <;> rfl
    exact same ▸ List.prefix_refl _

theorem begun_readLines (reading : Reading) (lines : List Line) :
    reading.begun <+: (reading.readLines lines).begun := by
  induction lines generalizing reading with
  | nil => exact List.prefix_refl _
  | cons line rest inductionHypothesis =>
    rw [readLines_cons]
    exact (reading.begun_readLine line).trans (inductionHypothesis _)

end Reading

namespace Document

/-- Lines that begin with a heading of the second level make sections of which the first begins
there. -/
theorem headingSpan_of_two {heading : Line} {title : List Char}
    (two : Heading.ofLine? heading.characters = some (2, title)) {rest : List Line}
    {lineCount : Nat} {document : Document}
    (read : readBody none #[] (heading :: rest) lineCount = .ok document) :
    (document.sections.map Section.headingSpan).head? =
      some (.lineAt heading.number heading.offset) := by
  obtain ⟨opened, opens, _⟩ := Reading.classify_two (Reading.start #[]) (Reading.start #[]) title
  have first : ((Reading.start #[]).readLine heading).begun =
      [.lineAt heading.number heading.offset] := by
    rw [Reading.readLine_of_opens rfl (Heading.ofLine?_fence two) two opens]
    exact Reading.begun_openSection _ _ _ _ _ _
  obtain ⟨more, whole⟩ := ((Reading.start #[]).readLine heading).begun_readLines rest
  rw [first, ← Reading.readLines_cons, ← Reading.map_headingSpan_closeSection] at whole
  rw [readBody_eq_finish] at read
  unfold Reading.finish at read
  split at read
  · cases read
  · cases read
    dsimp only
    rw [← whole]
    rfl

end Document

/-! ### Texts of one section -/

/-- A text is one section of unknown kind. It begins with a heading of the second level, and what is
read of it is this section alone. -/
structure IsUnknownSection (text : String) (heading : RawLine) (part : Section) : Prop where
  first : (rawLines text.toList).head? = some heading
  two : ∃ title, Heading.ofLine? heading.content = some (2, title)
  read : ∃ document, Document.ofText text = .ok (document, none) ∧ document.sections = [part]
  unknown : part.kind = .unknown

namespace IsUnknownSection

variable {text : String} {heading : RawLine} {part : Section}
  (isUnknown : IsUnknownSection text heading part)

include isUnknown

/-- The text begins with its heading, so not with a byte order mark. -/
theorem unmarked : text.toList.head? ≠ some '\uFEFF' := by
  intro marked
  obtain ⟨rest, begins⟩ := List.head?_eq_some_iff.mp marked
  obtain ⟨title, two⟩ := isUnknown.two
  have first := isUnknown.first
  have content : ∃ more, heading.content = '\uFEFF' :: more := by
    rw [begins, rawLines_cons_of_content (by decide)] at first
    cases lines : rawLines rest <;> rw [lines] at first <;> cases first <;> exact ⟨_, rfl⟩
  obtain ⟨more, content⟩ := content
  rw [content, Heading.ofLine?_eq_none (dropIndent_cons (by decide) more) (by decide)] at two
  cases two

/-- The first line of the text is its heading. -/
theorem lines_eq :
    ∃ rest, (Source.ofString text).lines = ⟨1, 0, heading.content⟩ :: rest := by
  obtain ⟨raws, lines⟩ := List.head?_eq_some_iff.mp isUnknown.first
  unfold Source.lines
  rw [Source.ofString_characters isUnknown.unmarked, lines, numberLines]
  exact ⟨_, rfl⟩

end IsUnknownSection

/-- Where the lines of a text come to stand behind a text. -/
def Placement.after (front : String) : Placement :=
  .behind (Source.ofString front).lines.length (utf8Length (Source.ofString front).characters)

/-- The heading of a text of one section, where that text is put behind another. -/
def RawLine.headingAfter (heading : RawLine) (front : String) : Line :=
  (Line.mk 1 0 heading.content).moved (.after front)

theorem RawLine.number_headingAfter (heading : RawLine) (front : String) :
    (heading.headingAfter front).number = (Source.ofString front).lines.length + 1 :=
  Nat.add_comm _ _

namespace Document

/-- A text of one section is one more section behind another text, and begins there. -/
theorem ofText_trailing {front back : String} {document : Document}
    (read : ofText front = .ok (document, none)) (ended : IsEnded front.toList)
    {heading : RawLine} {part : Section} (isUnknown : IsUnknownSection back heading part) :
    (∃ lineCount, ofText (front ++ back) =
      .ok (document.withLast (part.moved (.after front)) lineCount, none)) ∧
    heading.headingAfter front ∈ (Source.ofString (front ++ back)).lines ∧
    (part.moved (.after front)).headingSpan =
      .lineAt (heading.headingAfter front).number (heading.headingAfter front).offset := by
  obtain ⟨title, two⟩ := isUnknown.two
  obtain ⟨rest, lines⟩ := isUnknown.lines_eq
  obtain ⟨other, backRead, sections⟩ := isUnknown.read
  have two : Heading.ofLine? (Line.mk 1 0 heading.content).characters = some (2, title) := two
  have apart : back.toList.head? ≠ some '\n' :=
    Source.head?_ne_of_heading isUnknown.unmarked (congrArg List.head? lines) two
  have joined := Source.lines_append (Source.isEnded_ofString ended) isUnknown.unmarked apart
  have backLines := ofText_eq_document backRead
  rw [lines, ofLines_of_heading two rest] at backLines
  have body := Except.ok.inj backLines
  refine ⟨?_, ?_, ?_⟩
  · have count : ((Source.ofString front).lines ++ ⟨1, 0, heading.content⟩ :: rest).length =
        (Placement.after front).line (Line.mk 1 0 heading.content :: rest).length := by
      rw [List.length_append, Nat.add_comm]
      rfl
    have wholeLines := ofLines_append (ofText_eq_document read) two rest count
    rw [body, ← lines] at wholeLines
    unfold Placement.after at wholeLines
    rw [← joined] at wholeLines
    dsimp only at wholeLines
    rw [followedBy, sections] at wholeLines
    exact ⟨_, ofText_of_document wholeLines⟩
  · rw [joined, lines]
    exact List.mem_append_right _ List.mem_cons_self
  · have first := headingSpan_of_two two body
    rw [sections] at first
    have own : part.headingSpan = .lineAt 1 0 := Option.some.inj first
    exact congrArg (Span.moved (.after front)) own

end Document

end LlmTxt

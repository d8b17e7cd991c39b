/-
This file reads lines whose offsets are forgotten. Nothing that is read hangs on an offset: an offset
is only kept, in the span of a section or a code block and in a fatal defect. So to forget the offsets
of the lines and then to read them is to read them and then to forget the offsets of what has been
read. In particular texts whose lines say the same are read alike, wherever their lines begin.

Forgetting offsets is a placement like others, which leaves every line where it is and puts it at byte
zero. Only the frontmatter, which is not moved to any place, has to be looked at by itself.
-/

import LlmTxt.Proofs.Document.Lockstep
import LlmTxt.Proofs.Document.Relocation

namespace LlmTxt

namespace Placement

/-- Every line keeps its number, and no bytes are counted. -/
def uncounted : Placement where
  line := id
  byte := fun _ => 0

end Placement

/-- The first section stands at byte zero, counted or not. -/
theorem frontmatterSection_uncounted (body : List Line) (closing : Nat) :
    (frontmatterSection body closing).moved .uncounted = frontmatterSection body closing := by
  have lines (own : List SourceLine) : own.map (SourceLine.moved .uncounted) = own := List.map_id _
  unfold Section.moved
  rw [lines]
  rfl

/-! ### Where the frontmatter ends -/

/-- The same end of a frontmatter in another place. -/
def FrontmatterEnd.moved (place : Placement) : FrontmatterEnd → FrontmatterEnd
  | closed body closing rest =>
    closed (body.map (Line.moved place)) (place.line closing) (rest.map (Line.moved place))
  | heading line => heading (place.line line)
  | missing => missing

theorem FrontmatterEnd.behind_moved (place : Placement) (line : Line) (found : FrontmatterEnd) :
    (found.moved place).behind (line.moved place) = (found.behind line).moved place := by
  cases found <;> rfl

/-- A frontmatter ends at the same line wherever its lines are. -/
theorem frontmatterEnd_moved (place : Placement) (fence : Option Fence) (lines : List Line) :
    frontmatterEnd fence (lines.map (Line.moved place)) =
      (frontmatterEnd fence lines).moved place := by
  induction lines generalizing fence with
  | nil => rfl
  | cons line rest inductionHypothesis =>
    rw [List.map_cons, frontmatterEnd_cons, frontmatterEnd_cons, inductionHypothesis,
      FrontmatterEnd.behind_moved, Line.characters_moved]
    split
    · rfl
    · split
      · rfl
      · split <;> rfl

/-! ### The document -/

namespace Document

/-- A document in another place. -/
def moved (place : Placement) (document : Document) : Document :=
  { document with
    sections := document.sections.map (Section.moved place)
    lineCount := place.line document.lineCount }

/-- What reading a body comes to, in another place. -/
def outcomeMoved (place : Placement) : Except FatalDefect Document → Except FatalDefect Document
  | .ok document => .ok (document.moved place)
  | .error defect => .error (defect.moved place)

/-- A body in another place is read in that place, behind sections that are there too. -/
theorem readBody_moved (place : Placement) (frontmatter : Option Frontmatter)
    (given : Array Section) (lines : List Line) (lineCount : Nat) :
    readBody frontmatter (given.map (Section.moved place)) (lines.map (Line.moved place))
        (place.line lineCount) =
      outcomeMoved place (readBody frontmatter given lines lineCount) := by
  have start : Reading.start (given.map (Section.moved place)) =
      (Reading.start given).placed place #[] none := by
    simp [Reading.start, Reading.placed]
  rw [readBody_eq_finish, readBody_eq_finish, start, Reading.readLines_placed (Or.inl rfl),
    Reading.finish_placed]
  unfold Reading.finish
  cases ((Reading.start given).readLines lines).code <;> rfl

/-- Lines without offsets are read as the lines are, and what has been read has no offsets. -/
theorem ofLines_uncounted (lines : List Line) :
    ofLines (lines.map (Line.moved .uncounted)) =
      (ofLines lines).map (outcomeMoved .uncounted) := by
  cases lines with
  | nil => rfl
  | cons first rest =>
    have same : (first.moved .uncounted).characters = first.characters := rfl
    rw [List.map_cons]
    unfold ofLines
    dsimp only
    rw [same]
    by_cases delimiter : Frontmatter.isDelimiter first.characters = true
    · rw [if_pos delimiter, if_pos delimiter, frontmatterEnd_moved]
      cases frontmatterEnd none rest with
      | heading number => rfl
      | missing =>
        rw [List.length_cons, List.length_map]
        rfl
      | closed body closing behind =>
        have given : #[frontmatterSection (body.map Line.unplaced) closing] =
            #[frontmatterSection body closing].map (Section.moved .uncounted) := by
          rw [frontmatterSection_unplaced, List.map_toArray, List.map_singleton,
            frontmatterSection_uncounted]
        have loaded := Frontmatter.ofLines_unplaced body closing
        rw [FrontmatterEnd.moved]
        dsimp only
        change (Frontmatter.ofLines (body.map Line.unplaced) closing).bind _ = _
        rw [loaded]
        cases Frontmatter.ofLines body closing with
        | error failure => rfl
        | ok frontmatter =>
          have body := readBody_moved .uncounted (some frontmatter)
            #[frontmatterSection body closing] behind (first :: rest).length
          rw [← given] at body
          rw [List.length_cons, List.length_map]
          exact congrArg Except.ok body
    · have body := readBody_moved .uncounted none #[] (first :: rest) (first :: rest).length
      rw [Array.map_empty] at body
      rw [if_neg delimiter, if_neg delimiter, List.length_cons, List.length_map]
      exact congrArg Except.ok body

/-- Texts whose lines say the same are read alike, but for offsets. -/
theorem ofLines_of_same_characters {text other : String}
    (same : (Source.ofString text).lines.map Line.characters =
      (Source.ofString other).lines.map Line.characters) :
    (ofLines (Source.ofString text).lines).map (outcomeMoved .uncounted) =
      (ofLines (Source.ofString other).lines).map (outcomeMoved .uncounted) := by
  have lengths := congrArg List.length same
  rw [List.length_map, List.length_map] at lengths
  have numbers : (Source.ofString text).lines.map Line.number =
      (Source.ofString other).lines.map Line.number := by
    rw [Source.map_number_lines, Source.map_number_lines, lengths]
  have unplaced : (Source.ofString text).lines.map (Line.moved .uncounted) =
      (Source.ofString other).lines.map (Line.moved .uncounted) :=
    Line.map_unplaced_eq numbers same
  rw [← ofLines_uncounted, ← ofLines_uncounted, unplaced]

end Document

end LlmTxt

/-
This file takes the frontmatter off a document. Reading sets the lines of the frontmatter aside, with
one section that stands for them, and what it makes of the other lines hangs on neither. So the
document of a text whose frontmatter is closed is the document of its body, with the frontmatter put
before it. Whatever stands between the two lines of dashes, and whether or not it is a mapping, the
bodies of two texts come to the same if they have the same lines.
-/

import LlmTxt.Proofs.Document.Fatal
import LlmTxt.Proofs.Document.Tiling

namespace LlmTxt

namespace Document

/-- A document with a frontmatter before it. -/
def fronted (frontmatter : Frontmatter) (front : Section) (document : Document) : Document :=
  { document with
    frontmatter := some frontmatter
    sections := front :: document.sections }

/-- A body is read behind a frontmatter as it is read alone. -/
theorem readBody_fronted (frontmatter : Frontmatter) (front : Section) (lines : List Line)
    (lineCount : Nat) :
    readBody (some frontmatter) #[front] lines lineCount =
      (readBody none #[] lines lineCount).map (fronted frontmatter front) := by
  have start : Reading.start #[front] = (Reading.start #[]).placed .here #[front] none := by
    simp [Reading.start, Reading.placed]
  have run : (Reading.start #[front]).readLines lines =
      ((Reading.start #[]).readLines lines).placed .here #[front] none := by
    rw [start, ← Reading.readLines_placed (Or.inl rfl)]
    exact congrArg _ (List.map_id lines).symm
  rw [readBody_eq_finish, readBody_eq_finish, run]
  refine (Reading.finish_placed (some frontmatter) lineCount).trans ?_
  cases own : ((Reading.start #[]).readLines lines).finish none lineCount with
  | error defect => cases defect <;> rfl
  | ok document =>
    have sections : document.sections.map (Section.moved .here) = document.sections := by
      conv_rhs => rw [← List.map_id document.sections]
      exact List.map_congr_left fun part _ => part.moved_here
    dsimp only
    rw [sections, Except.map, fronted, (Reading.finish_eq_ok own).2]
    rfl

/-- A document is another one with a frontmatter before it, whose section is the only one of its
kind. -/
structure IsFronted (document : Document) (frontmatter : Frontmatter) (front : Section)
    (inner : Document) : Prop where
  document_eq : document = inner.fronted frontmatter front
  front_kind : front.kind = .frontmatter
  parts_kind : ∀ part ∈ inner.sections, part.kind ≠ .frontmatter

/-- A text whose frontmatter is closed is read as its body with the frontmatter before it. -/
theorem ofText_fronted {text : String} {document : Document} {fatal : Option FatalDefect}
    (read : ofText text = .ok (document, fatal)) {closing : Nat}
    (closes : ClosesFrontmatter (Source.ofString text).lines closing) :
    (∃ defect, readBody none #[] ((Source.ofString text).lines.drop closing)
        (Source.ofString text).lines.length = .error defect ∧ fatal = some defect) ∨
    ∃ inner frontmatter front, readBody none #[] ((Source.ofString text).lines.drop closing)
        (Source.ofString text).lines.length = .ok inner ∧
      document.IsFronted frontmatter front inner ∧ fatal = none := by
  obtain ⟨result, run, isDocument, isDefect⟩ := exists_of_ofText read
  rcases ofLines_front run with
    ⟨⟨_, _, cut, _, runOut⟩, _⟩ | ⟨_, front, behind, _, _, cut, isSetAside, follows, body⟩
  · obtain ⟨_, _, _, _, own, _, found⟩ := closes
    rw [cut] at own
    cases own
    rw [← isClosed_frontmatterEnd, found] at runOut
    cases runOut
  · obtain ⟨nonempty, rfl⟩ := (isSetAside.closesFrontmatter_iff follows cut).mp closes
    cases isSetAside with
    | bare => exact absurd rfl nonempty
    | @closed opener closer inner frontmatter _ _ _ =>
      have dropped := congrArg (List.drop (opener :: (inner ++ [closer])).length) cut
      rw [List.drop_left] at dropped
      rw [readBody_fronted] at body
      rw [dropped]
      cases own : readBody none #[] behind (Source.ofString text).lines.length with
      | error defect =>
        rw [own] at body
        exact Or.inl ⟨defect, rfl, isDefect _ body⟩
      | ok document =>
        rw [own] at body
        obtain ⟨document_eq, noDefect⟩ := isDocument _ body
        obtain ⟨_, parts, sections, kinds⟩ := exists_of_readBody own
        refine Or.inr ⟨document, frontmatter, frontmatterSection inner closer.number, rfl,
          ⟨document_eq, rfl, ?_⟩, noDefect⟩
        rw [sections]
        exact kinds

/-! ### Two texts -/

theorem ClosesFrontmatter.le_length {source : Source} {closing : Nat}
    (closes : ClosesFrontmatter source.lines closing) : closing ≤ source.lines.length := by
  obtain ⟨opener, rest, body, behind, cut, _, found⟩ := closes
  obtain ⟨closer, rfl, rfl, _⟩ := frontmatterEnd_eq_closed found
  have whole : source.lines = (opener :: body) ++ closer :: behind := cut
  rw [Source.number_eq_of_split whole, whole]
  simp only [List.length_append, List.length_cons]
  omega

/-- Texts whose frontmatters are closed on one line, and whose lines behind are the same, come to
documents that are the same behind the frontmatter, or both to one defect, up to offsets. -/
theorem ofText_of_same_body {text other : String} {document twin : Document}
    {fatal twinFatal : Option FatalDefect} (read : ofText text = .ok (document, fatal))
    (twinRead : ofText other = .ok (twin, twinFatal)) {closing : Nat}
    (closes : ClosesFrontmatter (Source.ofString text).lines closing)
    (twinCloses : ClosesFrontmatter (Source.ofString other).lines closing)
    (same : ((Source.ofString text).lines.drop closing).map Line.characters =
      ((Source.ofString other).lines.drop closing).map Line.characters) :
    (∃ defect twinDefect, fatal = some defect ∧ twinFatal = some twinDefect ∧
      defect.diagnostic.unplaced = twinDefect.diagnostic.unplaced) ∨
    fatal = none ∧ twinFatal = none ∧ ∃ frontmatter twinFrontmatter front twinFront inner twinInner,
      document.IsFronted frontmatter front inner ∧
        twin.IsFronted twinFrontmatter twinFront twinInner ∧ inner.masked = twinInner.masked := by
  have lengths : (Source.ofString text).lines.length = (Source.ofString other).lines.length := by
    have behind := congrArg List.length same
    have first := closes.le_length
    have second := twinCloses.le_length
    simp only [List.length_map, List.length_drop] at behind
    omega
  have numbers : ((Source.ofString text).lines.drop closing).map Line.number =
      ((Source.ofString other).lines.drop closing).map Line.number := by
    rw [List.map_drop, List.map_drop, Source.map_number_lines, Source.map_number_lines, lengths]
  have outside : SameOutsideCode none
      (((Source.ofString text).lines.drop closing).map Line.characters)
      (((Source.ofString other).lines.drop closing).map Line.characters) := by
    rw [← same]
    exact SameOutsideCode.refl none _
  have bodies := readBody_inStep outside numbers none #[] (Source.ofString text).lines.length
  have own := ofText_fronted read closes
  have others := ofText_fronted twinRead twinCloses
  rw [← lengths] at others
  rcases bodies with
    ⟨inner, twinInner, body, twinBody, masked⟩ | ⟨defect, twinDefect, body, twinBody, unplaced⟩
  · rw [body] at own
    rw [twinBody] at others
    obtain ⟨_, ⟨⟩, _⟩ | ⟨_, frontmatter, front, ⟨⟩, fronted, noDefect⟩ := own
    obtain ⟨_, ⟨⟩, _⟩ | ⟨_, twinFrontmatter, twinFront, ⟨⟩, twinFronted, noTwinDefect⟩ := others
    exact Or.inr ⟨noDefect, noTwinDefect, frontmatter, twinFrontmatter, front, twinFront, inner,
      twinInner, fronted, twinFronted, masked⟩
  · rw [body] at own
    rw [twinBody] at others
    obtain ⟨_, ⟨⟩, found⟩ | ⟨_, _, _, ⟨⟩, _⟩ := own
    obtain ⟨_, ⟨⟩, twinFound⟩ | ⟨_, _, _, ⟨⟩, _⟩ := others
    exact Or.inl ⟨defect, twinDefect, found, twinFound, unplaced⟩

end Document

end LlmTxt

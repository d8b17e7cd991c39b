/-
This file says exactly when a document cannot be read. There are two ways. A frontmatter begins
with the first line, and outside code a heading or the end of the text comes before a line that
closes it; or a line behind the frontmatter opens a fence, outside code, that no later line closes.
The two scans keep their fences apart from each other, but by the same rule.

The second condition speaks of the text up to the fence, which must be readable on its own. So what
has to be shown is that reading begins in the same way for every text that begins like this one:
the lines of the frontmatter are set aside, and what is open behind the others is found in these
alone. For the same reason a line with the mark of the fence, put behind the text, makes it readable.
-/

import LlmTxt.Proofs.Document.Joining
import LlmTxt.Proofs.Document.Stretches

namespace LlmTxt

/-! ### A frontmatter that is not closed -/

/-- The lines outside code, given the fence that is open before them: those that neither are fences
nor stand between two. -/
def unfenced (fence : Option Fence) : List Line → List Line
  | [] => []
  | line :: rest =>
    let further := unfenced (fenceAfter fence line.characters) rest
    if isFencedIn fence line.characters then further else line :: further

/-- A heading or the end comes before a line of dashes. -/
def RunOut (lines : List Line) : Prop :=
  ∀ before closer behind, lines = before ++ closer :: behind →
    Frontmatter.isDelimiter closer.characters = true →
      ∃ line ∈ before, (Heading.ofLine? line.characters).isSome

theorem runOut_nil : RunOut [] := by
  intro before closer behind cut
  simp at cut

theorem runOut_cons {line : Line} {rest : List Line} :
    RunOut (line :: rest) ↔ Frontmatter.isDelimiter line.characters = false ∧
      ((Heading.ofLine? line.characters).isSome = true ∨ RunOut rest) := by
  constructor
  · intro runOut
    constructor
    · refine Bool.eq_false_iff.mpr fun delimiter => ?_
      obtain ⟨_, impossible, _⟩ := runOut [] line rest rfl delimiter
      cases impossible
    · refine Classical.or_iff_not_imp_left.mpr fun noHeading before closer behind cut closes => ?_
      obtain ⟨own, member, heading⟩ := runOut (line :: before) closer behind (by rw [cut]; rfl) closes
      rcases List.mem_cons.mp member with rfl | later
      · exact absurd heading noHeading
      · exact ⟨own, later, heading⟩
  · rintro ⟨noDelimiter, goesOn⟩ before closer behind cut closes
    cases before with
    | nil =>
      cases cut
      rw [closes] at noDelimiter
      cases noDelimiter
    | cons first others =>
      obtain ⟨rfl, rests⟩ := List.cons.inj cut
      rcases goesOn with heading | runOut
      · exact ⟨line, List.mem_cons_self, heading⟩
      · obtain ⟨own, member, heading⟩ := runOut others closer behind rests closes
        exact ⟨own, List.mem_cons_of_mem _ member, heading⟩

/-- Whether a frontmatter ends with a line that closes it. -/
def FrontmatterEnd.isClosed : FrontmatterEnd → Bool
  | .closed .. => true
  | _ => false

@[simp] theorem FrontmatterEnd.isClosed_behind (line : Line) (found : FrontmatterEnd) :
    (found.behind line).isClosed = found.isClosed := by
  cases found <;> rfl

/-- A frontmatter is not closed where the lines outside code run out. -/
theorem isClosed_frontmatterEnd {fence : Option Fence} {lines : List Line} :
    (frontmatterEnd fence lines).isClosed = false ↔ RunOut (unfenced fence lines) := by
  induction lines generalizing fence with
  | nil => exact ⟨fun _ => runOut_nil, fun _ => rfl⟩
  | cons line rest inductionHypothesis =>
    rw [frontmatterEnd_cons, unfenced]
    cases isFencedIn fence line.characters with
    | true =>
      rw [if_pos rfl, if_pos rfl, FrontmatterEnd.isClosed_behind]
      exact inductionHypothesis
    | false =>
      rw [if_neg Bool.false_ne_true, if_neg Bool.false_ne_true, runOut_cons]
      cases Frontmatter.isDelimiter line.characters with
      | true => simp [FrontmatterEnd.isClosed]
      | false =>
        cases (Heading.ofLine? line.characters).isSome with
        | true => simp [FrontmatterEnd.isClosed]
        | false => simp [inductionHypothesis]

namespace Document

/-- Lines begin with a frontmatter that is not closed. -/
def HasUnclosedFrontmatter (lines : List Line) : Prop :=
  ∃ opener rest, lines = opener :: rest ∧ Frontmatter.isDelimiter opener.characters = true ∧
    RunOut (unfenced none rest)

/-- Lines begin with a frontmatter that the line of that number closes. -/
def ClosesFrontmatter (lines : List Line) (closing : Nat) : Prop :=
  ∃ opener rest body behind, lines = opener :: rest ∧
    Frontmatter.isDelimiter opener.characters = true ∧
    frontmatterEnd none rest = .closed body closing behind

section SetAside

variable {front behind : List Line} {frontmatter : Option Frontmatter} {given : Array Section}

theorem IsSetAside.not_hasUnclosedFrontmatter (isSetAside : IsSetAside front frontmatter given)
    (follows : MayFollow front behind) : ¬HasUnclosedFrontmatter (front ++ behind) := by
  rintro ⟨opener, rest, cut, delimiter, runOut⟩
  cases isSetAside with
  | bare =>
    rw [List.nil_append] at cut
    rw [follows rfl opener (by rw [cut]; rfl)] at delimiter
    cases delimiter
  | @closed _ closer body _ _ found _ =>
    rw [List.cons_append, List.append_assoc, List.singleton_append] at cut
    cases cut
    rw [← isClosed_frontmatterEnd, found behind] at runOut
    cases runOut

/-- A frontmatter is closed on the last of the lines that are set aside. -/
theorem IsSetAside.closesFrontmatter_iff {source : Source}
    (isSetAside : IsSetAside front frontmatter given) (follows : MayFollow front behind)
    (cut : source.lines = front ++ behind) {closing : Nat} :
    ClosesFrontmatter source.lines closing ↔ front ≠ [] ∧ closing = front.length := by
  cases isSetAside with
  | bare =>
    refine ⟨?_, fun ⟨nonempty, _⟩ => absurd rfl nonempty⟩
    rintro ⟨opener, rest, _, _, own, delimiter, _⟩
    rw [cut, List.nil_append] at own
    rw [follows rfl opener (by rw [own]; rfl)] at delimiter
    cases delimiter
  | @closed opener closer body _ delimiter found _ =>
    have whole : source.lines = (opener :: body) ++ closer :: behind := by simp [cut]
    have number := Source.number_eq_of_split whole
    have length : (opener :: (body ++ [closer])).length = closer.number := by
      rw [number]
      simp
    rw [length, whole, List.cons_append]
    constructor
    · rintro ⟨_, _, _, _, ⟨⟩, _, own⟩
      rw [found behind] at own
      cases own
      exact ⟨List.cons_ne_nil _ _, rfl⟩
    · rintro ⟨_, rfl⟩
      exact ⟨opener, _, body, behind, rfl, delimiter, found behind⟩

end SetAside

/-- What reading lines comes to: their frontmatter is not closed, or it is, or there is none, and the
lines behind it are read as the body. -/
theorem ofLines_front {lines : List Line} {result : Except FatalDefect Document}
    (read : ofLines lines = .ok result) :
    (HasUnclosedFrontmatter lines ∧
      ∃ defect, result = .error defect ∧ defect.code = .malformedFrontmatter) ∨
    ¬HasUnclosedFrontmatter lines ∧ ∃ front behind frontmatter given, lines = front ++ behind ∧
      IsSetAside front frontmatter given ∧ MayFollow front behind ∧
      result = readBody frontmatter given behind lines.length := by
  rcases ofLines_outcome read with
    ⟨opener, rest, rfl, delimiter, failed⟩ |
      ⟨front, behind, frontmatter, given, cut, isSetAside, follows, body⟩
  · refine Or.inl ⟨⟨opener, rest, rfl, delimiter, isClosed_frontmatterEnd.mp ?_⟩, ?_⟩
    · rcases failed with ⟨number, found, _⟩ | ⟨found, _⟩ <;> rw [found] <;> rfl
    · rcases failed with ⟨number, _, rfl⟩ | ⟨_, rfl⟩ <;> exact ⟨_, rfl, rfl⟩
  · refine Or.inr ⟨?_, front, behind, frontmatter, given, cut, isSetAside, follows, body⟩
    rw [cut]
    exact isSetAside.not_hasUnclosedFrontmatter follows

end Document

/-! ### Code that is left open -/

/-- Lines behind a fence that stands outside code leave its code block open where none of them closes
it. -/
theorem Body.openCode_of_unclosed {before inner : List Line} {opener : Line} {fence : Fence}
    (outside : openCode before = none) (opens : Fence.ofLine? opener.characters = some fence)
    (inside : ∀ line ∈ inner, fence.isClosedBy line.characters = false) :
    ∃ code, openCode (before ++ opener :: inner) =
      some ⟨fence, opener.number, opener.offset, code⟩ := by
  unfold openCode at outside ⊢
  rw [List.foldl_append, outside, List.foldl_cons, codeStep, opens, Option.map_some]
  exact ⟨_, foldl_codeStep_inside inside⟩

namespace Document

/-- A line of a text opens code that nothing closes: it stands behind the frontmatter, the text up to
it can be read, and no line behind it closes its fence. -/
structure OpensUnclosedCode (text : String) (number : Nat) (fence : Fence) : Prop where
  opens : ∃ line ∈ (Source.ofString text).lines,
    line.number = number ∧ Fence.ofLine? line.characters = some fence
  behind : ∀ closing, ClosesFrontmatter (Source.ofString text).lines closing → closing < number
  readable : ∃ document, ofText (textBefore text number) = .ok (document, none)
  unclosed : ∀ line ∈ (Source.ofString text).lines, number < line.number →
    fence.isClosedBy line.characters = false

section SetAside

variable {text : String} {front behind : List Line} {frontmatter : Option Frontmatter}
  {given : Array Section} (cut : (Source.ofString text).lines = front ++ behind)
  (isSetAside : IsSetAside front frontmatter given) (follows : MayFollow front behind)

include cut isSetAside follows

/-- Up to a line of the body, a text can be read where no code block is open before this line. -/
theorem ofText_textBefore_iff {before after : List Line} {line : Line}
    (split : behind = before ++ line :: after) :
    (∃ document, ofText (textBefore text line.number) = .ok (document, none)) ↔
      Body.openCode before = none := by
  have whole : (Source.ofString text).lines = (front ++ before) ++ line :: after := by
    rw [cut, split, List.append_assoc]
  have lines : (Source.ofString (textBefore text line.number)).lines = front ++ before := by
    rw [Source.lines_textBefore, Source.number_eq_of_split whole, Nat.add_sub_cancel, whole]
    exact List.take_left
  have stillFollows : MayFollow front before := by
    intro empty first member
    refine follows empty first ?_
    rw [split, List.head?_append, Option.mem_def.mp member]
    rfl
  have run := isSetAside.ofLines_eq stillFollows
  constructor
  · rintro ⟨document, read⟩
    have ownRun := ofText_eq_document read
    rw [lines, run] at ownRun
    cases isOpen : Body.openCode before with
    | none => rfl
    | some block =>
      obtain ⟨kind, failed⟩ :=
        readBody_of_open frontmatter given (front ++ before).length isOpen
      rw [failed] at ownRun
      cases ownRun
  · intro closed
    obtain ⟨document, body⟩ :=
      readBody_of_closed frontmatter given (front ++ before).length closed
    rw [body, ← lines] at run
    exact ⟨document, ofText_of_document run⟩

/-- The code block that is left open is the one whose first line nothing closes. -/
theorem opensUnclosedCode_iff {number : Nat} {fence : Fence} :
    OpensUnclosedCode text number fence ↔
      ∃ block, Body.openCode behind = some block ∧ block.line = number ∧ block.fence = fence := by
  constructor
  · rintro ⟨⟨line, member, rfl, opens⟩, later, readable, unclosed⟩
    obtain ⟨before, after, split⟩ := List.append_of_mem member
    have number := Source.number_eq_of_split split
    have short : front.length ≤ before.length := by
      rcases front.eq_nil_or_concat with rfl | ⟨_, _, rfl⟩
      · exact Nat.zero_le _
      · have order := later _ ((isSetAside.closesFrontmatter_iff follows cut).mpr ⟨by simp, rfl⟩)
        omega
    obtain ⟨inner, rfl⟩ : front <+: before :=
      List.prefix_of_prefix_length_le ⟨behind, cut.symm⟩ ⟨line :: after, split.symm⟩ short
    have within : behind = inner ++ line :: after := by
      rw [cut, List.append_assoc] at split
      exact List.append_cancel_left split
    have outside := (ofText_textBefore_iff cut isSetAside follows within).mp readable
    have inside : ∀ other ∈ after, fence.isClosedBy other.characters = false := by
      intro other member
      obtain ⟨inText, order⟩ := (Source.mem_behind_iff split).mp member
      exact unclosed other inText order
    obtain ⟨code, isOpen⟩ := Body.openCode_of_unclosed outside opens inside
    rw [within]
    exact ⟨_, isOpen, rfl, rfl⟩
  · rintro ⟨block, isOpen, rfl, rfl⟩
    obtain ⟨before, opener, inner, within, outside, opens, inside, number, _⟩ :=
      Body.openCode_eq_some isOpen
    have split : (Source.ofString text).lines = (front ++ before) ++ opener :: inner := by
      rw [cut, within, List.append_assoc]
    rw [number]
    refine ⟨⟨opener, by simp [split], rfl, opens⟩, ?_,
      (ofText_textBefore_iff cut isSetAside follows within).mpr outside, ?_⟩
    · intro closing closes
      obtain ⟨_, rfl⟩ := (isSetAside.closesFrontmatter_iff follows cut).mp closes
      rw [Source.number_eq_of_split split, List.length_append]
      omega
    · intro line member order
      exact inside line ((Source.mem_behind_iff split).mpr ⟨member, order⟩)

end SetAside

end Document

/-! ### The mark of a fence -/

namespace Fence

/-- The mark of a fence, without the text behind it. -/
def mark (fence : Fence) : List Char :=
  List.replicate fence.count fence.marker

/-- What fences are made of. -/
structure IsMarked (fence : Fence) : Prop where
  isMarker : isMarker fence.marker = true
  count_ge : 3 ≤ fence.count

theorem isMarked_of_ofLine? {line : List Char} {fence : Fence}
    (found : ofLine? line = some fence) : fence.IsMarked := by
  unfold ofLine? at found
  split at found
  · cases found
  · split at found
    · rename_i marker rest _ isMarker
      dsimp only at found
      split at found
      · rename_i long
        rw [Bool.and_eq_true, decide_eq_true_eq] at long
        cases found
        exact ⟨isMarker, Nat.succ_le_succ long.1⟩
      · cases found
    · cases found

variable {fence : Fence} (marked : fence.IsMarked)

include marked

theorem IsMarked.eq_or : fence.marker = '\x60' ∨ fence.marker = '~' := by
  have isMarker := marked.isMarker
  unfold Fence.isMarker at isMarker
  rwa [Bool.or_eq_true, beq_iff_eq, beq_iff_eq] at isMarker

theorem IsMarked.mark_eq_cons :
    fence.mark = fence.marker :: List.replicate (fence.count - 1) fence.marker := by
  have positive := marked.count_ge
  rw [mark, ← List.replicate_succ]
  congr 1
  omega

/-- The mark alone is a fence that says nothing. -/
theorem IsMarked.ofLine?_mark : ofLine? fence.mark = some ⟨fence.marker, fence.count, []⟩ := by
  have long := marked.count_ge
  have noSpace : fence.marker ≠ ' ' := by
    rcases marked.eq_or with same | same <;> rw [same] <;> decide
  have run : (List.replicate (fence.count - 1) fence.marker).takeWhile (· == fence.marker) =
      List.replicate (fence.count - 1) fence.marker :=
    List.takeWhile_eq_self_iff.mpr fun _ member => beq_iff_eq.mpr (List.eq_of_mem_replicate member)
  rw [marked.mark_eq_cons, ofLine?, dropIndent_cons noSpace]
  dsimp only
  rw [if_pos marked.isMarker, run, List.length_replicate, List.drop_of_length_le (by simp)]
  have enough : (decide (2 ≤ fence.count - 1) &&
      !(Text.trimBy Text.isGap []).contains '\x60') = true := by
    rw [decide_eq_true (by omega)]
    rfl
  rw [if_pos enough, Nat.sub_add_cancel (by omega)]
  rfl

theorem IsMarked.isClosedBy_mark : fence.isClosedBy fence.mark = true := by
  unfold isClosedBy
  rw [marked.ofLine?_mark, Option.any_some, closes]
  simp [Text.isAllBlank]

theorem IsMarked.unbroken_mark : ∀ character ∈ fence.mark, isLineBreak character = false := by
  intro character member
  rw [List.eq_of_mem_replicate member]
  rcases marked.eq_or with same | same <;> rw [same] <;> decide

theorem IsMarked.unmarked_mark : fence.mark.head? ≠ some '\uFEFF' := by
  rw [marked.mark_eq_cons, List.head?_cons]
  rcases marked.eq_or with same | same <;> rw [same] <;> decide

end Fence

/-- Blank lines leave a fence open, and its mark closes it. -/
theorem foldl_fenceAfter_mark {fence : Fence} (marked : fence.IsMarked) (gap : Nat) :
    (List.replicate gap [] ++ [fence.mark]).foldl fenceAfter (some fence) = none := by
  induction gap with
  | zero => exact fenceAfter_eq_none_iff.mpr marked.isClosedBy_mark
  | succ gap inductionHypothesis => exact inductionHypothesis

/-! ### When reading fails -/

namespace Document

variable {text : String} {document : Document} {fatal : Option FatalDefect}

/-- What reading a text comes to. Its frontmatter is not closed, and this is the defect; or its body
is read, and the defect, if there is one, is the code block that is left open in it. -/
theorem ofText_front (read : ofText text = .ok (document, fatal)) :
    (HasUnclosedFrontmatter (Source.ofString text).lines ∧
      ∃ defect ∈ fatal, defect.code = .malformedFrontmatter) ∨
    ¬HasUnclosedFrontmatter (Source.ofString text).lines ∧ ∃ front behind frontmatter given,
      (Source.ofString text).lines = front ++ behind ∧ IsSetAside front frontmatter given ∧
      MayFollow front behind ∧
      (Body.openCode behind = none → fatal = none) ∧
      ∀ block, Body.openCode behind = some block → ∃ kind,
        fatal = some (.unclosedCode block.line block.offset (Source.ofString text).lines.length
          kind) := by
  obtain ⟨result, run, isDocument, isDefect⟩ := exists_of_ofText read
  rcases ofLines_front run with
    ⟨unclosed, defect, rfl, code⟩ |
      ⟨closed, front, behind, frontmatter, given, cut, isSetAside, follows, body⟩
  · exact Or.inl ⟨unclosed, defect, isDefect defect rfl, code⟩
  · refine Or.inr ⟨closed, front, behind, frontmatter, given, cut, isSetAside, follows, ?_, ?_⟩
    · intro noCode
      obtain ⟨complete, own⟩ :=
        readBody_of_closed frontmatter given (Source.ofString text).lines.length noCode
      exact (isDocument complete (body.trans own)).2
    · intro block isOpen
      obtain ⟨kind, own⟩ :=
        readBody_of_open frontmatter given (Source.ofString text).lines.length isOpen
      exact ⟨kind, isDefect _ (body.trans own)⟩

/-- The frontmatter is malformed where a heading or the end comes before the line that would close
it. -/
theorem malformed_iff (read : ofText text = .ok (document, fatal)) :
    (∃ defect ∈ fatal, defect.code = .malformedFrontmatter) ↔
      HasUnclosedFrontmatter (Source.ofString text).lines := by
  rcases ofText_front read with
    ⟨unclosed, found⟩ | ⟨closed, _, behind, _, _, _, _, _, noCode, inCode⟩
  · exact ⟨fun _ => unclosed, fun _ => found⟩
  · refine ⟨fun ⟨defect, member, code⟩ => ?_, fun unclosed => absurd unclosed closed⟩
    cases isOpen : Body.openCode behind with
    | none =>
      rw [noCode isOpen] at member
      cases member
    | some block =>
      obtain ⟨kind, own⟩ := inCode block isOpen
      rw [own] at member
      cases member
      cases code

/-- Code is unterminated at the line that opens it. -/
theorem unterminated_iff (read : ofText text = .ok (document, fatal)) {number : Nat} :
    (∃ defect ∈ fatal, defect.code = .unterminatedCodeBlock ∧ defect.span.first = number) ↔
      ¬HasUnclosedFrontmatter (Source.ofString text).lines ∧
        ∃ fence, OpensUnclosedCode text number fence := by
  rcases ofText_front read with
    ⟨unclosed, defect, found, malformed⟩ |
      ⟨closed, _, behind, _, _, cut, isSetAside, follows, noCode, inCode⟩
  · refine ⟨fun ⟨other, member, code, _⟩ => ?_, fun ⟨closed, _⟩ => absurd unclosed closed⟩
    rw [Option.mem_unique member found, malformed] at code
    cases code
  · simp only [opensUnclosedCode_iff cut isSetAside follows]
    cases isOpen : Body.openCode behind with
    | none =>
      rw [noCode isOpen]
      simp
    | some block =>
      obtain ⟨kind, own⟩ := inCode block isOpen
      rw [own]
      simp [FatalDefect.code, FatalDefect.span, closed]

/-- A line break and the mark of the fence that is left open make a text readable. -/
theorem ofText_append_mark (read : ofText text = .ok (document, fatal))
    (closed : ¬HasUnclosedFrontmatter (Source.ofString text).lines) {number : Nat} {fence : Fence}
    (opens : OpensUnclosedCode text number fence) {ending : String}
    (isBreak : IsLineBreak ending.toList) :
    ∃ complete, ofText (text ++ ending ++ String.ofList fence.mark) = .ok (complete, none) := by
  obtain ⟨line, _, _, isFence⟩ := opens.opens
  have marked := Fence.isMarked_of_ofLine? isFence
  obtain ⟨gap, longer⟩ := Source.exists_characters_append text isBreak marked.unbroken_mark
    (by rw [marked.mark_eq_cons]; exact List.cons_ne_nil _ _) marked.unmarked_mark
  rcases ofText_front read with
    ⟨unclosed, _⟩ | ⟨_, front, behind, frontmatter, given, cut, isSetAside, follows, _⟩
  · exact absurd unclosed closed
  · obtain ⟨block, isOpen, _, rfl⟩ := (opensUnclosedCode_iff cut isSetAside follows).mp opens
    rw [cut, List.map_append, List.append_assoc] at longer
    obtain ⟨twinFront, twinBehind, twinCut, fronts, behinds⟩ := List.map_eq_append_iff.mp longer
    -- The body is not empty, for a code block is open in it.
    obtain ⟨before, opener, inner, within, _⟩ := Body.openCode_eq_some isOpen
    have heads : (behind.map Line.characters).head? = (twinBehind.map Line.characters).head? := by
      rw [behinds, List.head?_append_of_ne_nil]
      simp [within]
    have run := isSetAside.ofLines_twin follows cut twinCut fronts.symm heads
    have noCode : Body.openCode twinBehind = none := by
      rw [← Option.map_eq_none_iff, Body.fence_openCode, behinds, List.foldl_append,
        ← Body.fence_openCode, isOpen, Option.map_some]
      exact foldl_fenceAfter_mark marked gap
    obtain ⟨complete, body⟩ := readBody_of_closed frontmatter given
      (Source.ofString (text ++ ending ++ String.ofList block.fence.mark)).lines.length noCode
    rw [body] at run
    exact ⟨complete, ofText_of_document run⟩

end Document

end LlmTxt

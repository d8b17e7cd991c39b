/-
This file says exactly when a check comes to a report. Whatever is wrong with a document should be
a diagnostic, and nearly all of it is: fences and headings in any order, a frontmatter that is no
YAML, an empty document. Two things are not. The frontmatter may hold a number that no character
or no integer answers to, and then the reading of YAML fails in a way that is not a rejection of
the text; and a heading that is read as a declaration may be misspelled with a letter that only
folding takes for one of ASCII. Where neither is the case, there is a report, whatever the
settings are.

The values from which a report is made are checked when they are built. That these checks never
fail is shown here too: lines are counted from one, and levels go from one to six.
-/

import LlmTxt.Proofs.Symbol.Failure
import LlmTxt.Proofs.Validation.Locations

namespace LlmTxt

/-! ### The frontmatter -/

namespace Frontmatter

/-- A block is read as YAML or rejected as a text that is none. -/
def Loads (body : List Line) : Prop :=
  ∀ failure, Yaml.Value.ofText? (['\n'].intercalate (body.map (·.characters))) = .error failure →
    ∃ rejection, failure = .rejected rejection

theorem ofLines_eq_ok_iff (body : List Line) (closing : Nat) :
    (∃ frontmatter, ofLines body closing = .ok frontmatter) ↔ Loads body := by
  unfold ofLines Loads
  dsimp only
  cases Yaml.Value.ofText? (['\n'].intercalate (body.map (·.characters))) with
  | ok found =>
    refine ⟨fun _ _ impossible => (nomatch impossible), fun _ => ?_⟩
    rcases found with _ | content
    · exact ⟨_, rfl⟩
    · cases content <;> exact ⟨_, rfl⟩
  | error failure =>
    cases failure with
    | rejected rejection =>
      refine ⟨fun _ failure same => ?_, fun _ => ⟨_, rfl⟩⟩
      cases same
      exact ⟨rejection, rfl⟩
    | escapeOutOfRange value =>
      refine ⟨fun ⟨_, impossible⟩ => (nomatch impossible), fun loads => ?_⟩
      obtain ⟨rejection, impossible⟩ := loads _ rfl
      cases impossible
    | tooManyDigits count =>
      refine ⟨fun ⟨_, impossible⟩ => (nomatch impossible), fun loads => ?_⟩
      obtain ⟨rejection, impossible⟩ := loads _ rfl
      cases impossible

end Frontmatter

namespace Document

/-- The frontmatter of some lines, if they begin with one that is closed, can be loaded. -/
def FrontmatterLoads (lines : List Line) : Prop :=
  ∀ opener rest body closing behind, lines = opener :: rest →
    Frontmatter.isDelimiter opener.characters = true →
    frontmatterEnd none rest = .closed body closing behind → Frontmatter.Loads body

theorem ofLines_eq_ok_iff (lines : List Line) :
    (∃ result, ofLines lines = .ok result) ↔ FrontmatterLoads lines := by
  unfold ofLines
  dsimp only
  split
  · refine ⟨fun _ opener rest _ _ _ split => (nomatch split), fun _ => ⟨_, rfl⟩⟩
  · rename_i first rest
    split
    · rename_i delimiter
      split
      · rename_i number found
        refine ⟨fun _ opener other body closing behind split _ closed => ?_, fun _ => ⟨_, rfl⟩⟩
        cases split
        rw [found] at closed
        cases closed
      · rename_i found
        refine ⟨fun _ opener other body closing behind split _ closed => ?_, fun _ => ⟨_, rfl⟩⟩
        cases split
        rw [found] at closed
        cases closed
      · rename_i body closing behind found
        have loads : FrontmatterLoads (first :: rest) ↔ Frontmatter.Loads body := by
          constructor
          · intro all
            exact all first rest body closing behind rfl delimiter found
          · intro own opener other body' closing' behind' split _ closed
            cases split
            rw [found] at closed
            cases closed
            exact own
        rw [loads, ← Frontmatter.ofLines_eq_ok_iff body closing]
        cases Frontmatter.ofLines body closing with
        | error failure =>
          constructor <;> exact fun ⟨_, impossible⟩ => (nomatch impossible)
        | ok frontmatter => exact ⟨fun _ => ⟨_, rfl⟩, fun _ => ⟨_, rfl⟩⟩
    · rename_i notDelimiter
      refine ⟨fun _ opener other body closing behind split delimiter _ => ?_, fun _ => ⟨_, rfl⟩⟩
      cases split
      exact absurd delimiter notDelimiter

theorem ofText_eq_ok_iff (text : String) :
    (∃ result, ofText text = .ok result) ↔
      FrontmatterLoads (Source.ofString text).lines := by
  rw [← ofLines_eq_ok_iff]
  unfold ofText
  dsimp only
  cases ofLines (Source.ofString text).lines with
  | error failure => constructor <;> exact fun ⟨_, impossible⟩ => (nomatch impossible)
  | ok result => cases result <;> exact ⟨fun _ => ⟨_, rfl⟩, fun _ => ⟨_, rfl⟩⟩

end Document

/-! ### Checks of the values that are built -/

/-- A span passes the check that is made of spans from outside. -/
def Span.IsAdmitted (span : Span) : Prop :=
  Span.ofNumbers? span.first span.last (span.offset.map Int.ofNat) = some span

/-- A level that a heading can have. -/
def IsLevel (level : Nat) : Prop :=
  1 ≤ level ∧ level ≤ 6

/-- A section passes the checks of its level and its span, and so does all that it holds. -/
structure Section.IsAdmitted (part : Section) : Prop where
  level_isLevel : IsLevel part.level
  span_isAdmitted : part.span.IsAdmitted
  headings_isLevel : ∀ heading ∈ part.headings, IsLevel heading.level
  codeBlocks_isAdmitted : ∀ block ∈ part.codeBlocks, block.span.IsAdmitted

theorem Span.LiesIn.isAdmitted {source : Source} {span : Span} (within : span.LiesIn source) :
    span.IsAdmitted := by
  have first := within.first_pos
  have last := Nat.le_trans first within.first_le_last
  obtain ⟨start, stop, offset⟩ := span
  have positive : ¬((start : Int) < 1 || (stop : Int) < 1) = true := by
    dsimp only at first last
    simp only [Bool.or_eq_true, decide_eq_true_eq]
    omega
  unfold IsAdmitted ofNumbers?
  rw [if_neg positive]
  cases offset with
  | none => rfl
  | some bytes => exact if_neg (Int.not_lt.mpr (Int.natCast_nonneg bytes))

theorem Heading.isLevel_of_ofLine? {line title : List Char} {level : Nat}
    (found : Heading.ofLine? line = some (level, title)) : IsLevel level := by
  have bounds (count : Nat) (known : ¬count = 0 ∧ ¬6 < count) : IsLevel count := by
    constructor <;> omega
  unfold Heading.ofLine? at found
  dsimp only at found
  -- The content is without the line feed at its end, or had none: the rest is the same for both.
  split at found
  all_goals
    split at found
    · cases found
    · rename_i notRefused
      simp only [Bool.or_eq_true, decide_eq_true_eq, not_or] at notRefused
      have own := bounds _ notRefused.1.1
      split at found
      · split at found
        · cases found
          exact own
        · cases found
      · cases found
        exact own

theorem Block.isAdmitted_part {source : Source} {block : Block} (complete : block.IsComplete)
    (within : block.part.LiesIn source) : block.part.IsAdmitted where
  level_isLevel := Heading.isLevel_of_ofLine? complete.heading_eq
  span_isAdmitted := within.span_liesIn.isAdmitted
  headings_isLevel := by
    intro heading member
    obtain ⟨_, _, _, title, found⟩ := Body.exists_of_mem_headings member
    exact Heading.isLevel_of_ofLine? found
  codeBlocks_isAdmitted := fun block member =>
    (within.codeBlocks_liesIn block member).span_liesIn.isAdmitted

/-- Every section of a document that has been read passes its checks. -/
theorem Document.section_isAdmitted {text : String} {document : Document}
    (read : ofText text = .ok (document, none)) {part : Section}
    (member : part ∈ document.sections) : part.IsAdmitted := by
  have within := section_liesIn read member
  obtain ⟨preamble, blocks, cut, complete⟩ := ofText_eq_ok read
  cases cut with
  | bare _ _ sections_eq =>
    rw [sections_eq] at member
    obtain ⟨block, inBlocks, rfl⟩ := List.mem_map.mp member
    exact Block.isAdmitted_part (complete block inBlocks) within
  | fronted _ body closer _ _ _ _ sections_eq =>
    rw [sections_eq] at member
    rcases List.mem_cons.mp member with rfl | behind
    · have one : IsLevel 1 := ⟨by decide, by decide⟩
      exact ⟨one, within.span_liesIn.isAdmitted, by simp [frontmatterSection],
        by simp [frontmatterSection]⟩
    · obtain ⟨block, inBlocks, rfl⟩ := List.mem_map.mp behind
      exact Block.isAdmitted_part (complete block inBlocks) within

/-! ### The outcome -/

/-- A check comes to a report if and only if the frontmatter loads and no heading that is read as a
declaration is misspelled. All sections and spans on the way pass the checks that are made of
them. -/
theorem validate_returns_iff (text : String) (settings : Settings) (source : Option String) :
    ((∃ report, validate text settings source = .ok report) ↔
      Document.FrontmatterLoads (Source.ofString text).lines ∧
        ∀ document, Document.ofText text = .ok (document, none) → document.IsSpelled) ∧
    (∀ document defect?, Document.ofText text = .ok (document, defect?) →
      ∀ part ∈ document.sections, part.IsAdmitted) ∧
    ∀ report, validate text settings source = .ok report →
      ∀ diagnostic ∈ report.diagnostics, diagnostic.span.IsAdmitted := by
  refine ⟨?_, ?_, ?_⟩
  · rw [← Document.ofText_eq_ok_iff]
    unfold validate
    cases read : Document.ofText text with
    | error failure =>
      exact ⟨fun ⟨_, impossible⟩ => (nomatch impossible),
        fun ⟨⟨_, impossible⟩, _⟩ => (nomatch impossible)⟩
    | ok result =>
      obtain ⟨document, defect?⟩ := result
      cases defect? with
      | some defect =>
        exact ⟨fun _ => ⟨⟨_, rfl⟩, fun _ impossible => (nomatch impossible)⟩, fun _ => ⟨_, rfl⟩⟩
      | none =>
        have spelled := document.findings_eq_ok_iff settings
        dsimp only
        cases run : document.findings settings with
        | error failure =>
          rw [run] at spelled
          refine ⟨fun ⟨_, impossible⟩ => (nomatch impossible), fun both => ?_⟩
          obtain ⟨_, impossible⟩ := spelled.mpr (both.2 document rfl)
          cases impossible
        | ok findings =>
          rw [run] at spelled
          refine ⟨fun _ => ⟨⟨_, rfl⟩, ?_⟩, fun _ => ⟨_, rfl⟩⟩
          intro other same
          cases same
          exact spelled.mp ⟨findings, rfl⟩
  · intro document defect? read part member
    cases defect? with
    | some defect =>
      rw [(Document.ofText_eq_defect read).2] at member
      cases member
    | none => exact Document.section_isAdmitted read member
  · intro report run diagnostic member
    exact ((locations_lie_in_text text settings source).1 report run diagnostic member).isAdmitted

/-- A word with a long s, and an escape beyond the last character, keep a check from a report. -/
theorem validate_fails_on_two_texts :
    (¬∃ report, validate "## Module: m\n#### claſs A\n" .default none = .ok report) ∧
      ¬∃ report, validate "---\nsummary: \"\\U00110000\"\n---\n" .default none = .ok report := by
  constructor
  · have failure : validate "## Module: m\n#### claſs A\n" .default none =
        .error (.heading ⟨"claſs"⟩) := by
      decide +kernel
    rw [failure]
    exact fun ⟨_, impossible⟩ => (nomatch impossible)
  · have failure : validate "---\nsummary: \"\\U00110000\"\n---\n" .default none =
        .error (.frontmatter (.escapeOutOfRange 0x110000)) := by
      decide +kernel
    rw [failure]
    exact fun ⟨_, impossible⟩ => (nomatch impossible)

end LlmTxt

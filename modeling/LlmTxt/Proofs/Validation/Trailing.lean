/-
This file shows that a section of unknown kind at the end of a text is inert. What the stages of a
check have found without it, they find with it, and besides only that the section is unknown. In the
report this comes last, because nothing that is found without the section is on a line behind the
text. Where the text is empty, there is no line before that of the section, and what is missing is put
on that line too; but it comes before by its severity, or else by its code.
-/

import LlmTxt.Proofs.Document.Trailing
import LlmTxt.Proofs.Validation.Locations

namespace LlmTxt

/-! ### The order of a report -/

namespace Diagnostic

theorem sortsBefore_eq_false_of_line {first second : Diagnostic}
    (line : second.span.first < first.span.first) : first.sortsBefore second = false := by
  refine Bool.eq_false_iff.mpr fun before => ?_
  rw [sortsBefore_iff] at before
  omega

/-- A diagnostic comes first in a report that is graver than another on its line, or as grave and of
a lesser code. -/
theorem sortsBefore_eq_false_of_rank {first second : Diagnostic}
    (line : second.span.first = first.span.first)
    (rank : second.severity.rank < first.severity.rank ∨
      second.severity.rank = first.severity.rank ∧ second.code < first.code) :
    first.sortsBefore second = false := by
  refine Bool.eq_false_iff.mpr fun before => ?_
  rw [sortsBefore_iff] at before
  rcases before with behind | ⟨_, graver | ⟨same, code⟩⟩
  · omega
  · omega
  · rcases rank with graver | ⟨_, less⟩
    · omega
    · exact absurd less (String.not_lt.mpr code)

end Diagnostic

/-! ### What is found without the section -/

namespace Document

/-- A text without lines, which ends with a break if it is not empty, is empty. -/
theorem eq_empty_of_lines {text : String} (ended : IsEnded text.toList)
    (lines : (Source.ofString text).lines = []) : text = "" := by
  have raws : (rawLines (Source.ofString text).characters).length = 0 := by
    rw [← Source.length_lines, lines]
    rfl
  have none := eq_nil_of_rawLines (List.length_eq_zero_iff.mp raws)
  refine String.toList_inj.mp ?_
  by_cases marked : text.toList.head? = some '\uFEFF'
  · -- A mark alone is no break.
    obtain ⟨rest, begins⟩ := List.head?_eq_some_iff.mp marked
    rw [Source.ofString_marked begins] at none
    rw [begins, none] at ended
    exact absurd (ended '\uFEFF' rfl) (by decide)
  · rw [← Source.ofString_characters marked, none]
    rfl

/-- All that is found in a document without lines is that something is missing. -/
theorem stages_of_empty {document : Document} (read : ofText "" = .ok (document, none))
    {sections : SymbolTable} (tableRun : document.moduleTable = .ok sections)
    {declarations : List Diagnostic}
    (declarationsRun : document.checkDeclarations = .ok declarations) (settings : Settings) :
    ∀ diagnostic ∈ (document.stages settings sections declarations).flatten,
      diagnostic.span.first = 1 ∧ (diagnostic.severity.rank < Severity.info.rank ∨
        diagnostic.severity.rank = Severity.info.rank ∧
          diagnostic.code < Code.unknownSection.name) := by
  have empty : ofText "" = .ok (⟨none, none, [], [], 0⟩, none) := rfl
  rw [empty] at read
  cases read
  cases tableRun
  cases declarationsRun
  have found : ((⟨none, none, [], [], 0⟩ : Document).stages settings (.empty .moduleSections)
      []).flatten =
        Frontmatter.Defect.missing.diagnostic ::
          (⟨none, none, [], [], 0⟩ : Document).checkPresence := rfl
  intro diagnostic member
  change diagnostic ∈ ((⟨none, none, [], [], 0⟩ : Document).stages settings
    (.empty .moduleSections) []).flatten at member
  rw [found] at member
  revert diagnostic
  decide +kernel

/-- What is found in a text comes in a report before what is found on the line behind the text, if
that is the word that a section is unknown. -/
theorem sortsBefore_unknown {text : String} {document : Document}
    (read : ofText text = .ok (document, none)) (ended : IsEnded text.toList)
    {sections : SymbolTable} (tableRun : document.moduleTable = .ok sections)
    {declarations : List Diagnostic}
    (declarationsRun : document.checkDeclarations = .ok declarations) (settings : Settings)
    {last : Section} (line : last.headingSpan.first = (Source.ofString text).lines.length + 1)
    {diagnostic : Diagnostic}
    (member : diagnostic ∈ (document.stages settings sections declarations).flatten) :
    (Section.ShapeDefect.unknown.diagnostic last).sortsBefore diagnostic = false := by
  have behind : (Section.ShapeDefect.unknown.diagnostic last).span.first =
      (Source.ofString text).lines.length + 1 := line
  cases lines : (Source.ofString text).lines with
  | nil =>
    rw [eq_empty_of_lines ended lines] at read
    obtain ⟨first, rank⟩ :=
      stages_of_empty read tableRun declarationsRun settings diagnostic member
    rw [lines] at behind
    exact Diagnostic.sortsBefore_eq_false_of_rank (first.trans behind.symm) rank
  | cons own rest =>
    have within := stages_liesIn read settings tableRun declarationsRun member
    have positive : 1 ≤ (Source.ofString text).lines.length := by
      rw [lines]
      exact Nat.le_add_left 1 _
    refine Diagnostic.sortsBefore_eq_false_of_line ?_
    have order := within.first_le_last
    have bound := within.last_le
    rw [behind]
    omega

end Document

/-! ### The report -/

/-- What is found besides comes last in a report and is no error. -/
theorem Report.ofFindings_last {stages whole : List (List Diagnostic)} {front back : List Diagnostic}
    {last : Diagnostic} (flat : stages.flatten = front ++ back)
    (wholeFlat : whole.flatten = front ++ last :: back)
    (behind : ∀ diagnostic ∈ stages.flatten, last.sortsBefore diagnostic = false)
    (noError : last.isError = false) (source : Option String) :
    ofFindings ⟨whole⟩ source =
      { ofFindings ⟨stages⟩ source with
        diagnostics := (ofFindings ⟨stages⟩ source).diagnostics ++ [last] } := by
  unfold ofFindings
  dsimp only
  rw [Findings.merged_last flat wholeFlat behind, List.any_append, List.any_cons, noError,
    List.any_nil, Bool.or_false, Bool.or_false]

/-- Unknown sections at the end are inert. Let a text be empty or end with a line break, and be read
without a fatal defect. Let a second text be one section of unknown kind, which begins with a heading
of the second level, and in which no code block is in the language of the examples of the first. Where
a check of the first text comes to a report, a check of both together comes to the same report with
one more diagnostic at its end: that the section is unknown, on the line of its heading. -/
theorem trailing_unknown_section_is_inert {front back : String} {document : Document}
    (read : Document.ofText front = .ok (document, none)) (ended : IsEnded front.toList)
    {heading : RawLine} {part : Section} (isUnknown : IsUnknownSection back heading part)
    (foreign : ∀ block ∈ part.codeBlocks,
      Language.canonical block.language ≠ some document.exampleLanguage)
    {settings : Settings} {source : Option String} {report : Report}
    (run : validate front settings source = .ok report) :
    ∃ line ∈ (Source.ofString (front ++ back)).lines,
      line.number = (Source.ofString front).lines.length + 1 ∧
      line.characters = heading.content ∧
      validate (front ++ back) settings source = .ok
        { report with
          diagnostics := report.diagnostics ++
            [⟨.info, "UnknownSection", Section.ShapeDefect.unknown.message part,
              .lineAt line.number line.offset, some .unknown, none⟩] } := by
  obtain ⟨⟨lineCount, wholeRead⟩, member, span⟩ := Document.ofText_trailing read ended isUnknown
  refine ⟨_, member, heading.number_headingAfter front, rfl, ?_⟩
  rcases validate_cases run with
    ⟨_, _, failed, _⟩ | ⟨own, sections, declarations, ownRead, tableRun, declarationsRun, rfl⟩
  · rw [read] at failed
    cases failed
  · rw [read] at ownRead
    cases ownRead
    have unknown : (part.moved (.after front)).kind = .unknown := isUnknown.unknown
    have stillForeign : ∀ block ∈ (part.moved (.after front)).codeBlocks,
        Language.canonical block.language ≠ some document.exampleLanguage := by
      intro block inPart
      obtain ⟨own, member, rfl⟩ := List.mem_map.mp inPart
      exact foreign own member
    have wholeTable := document.moduleTable_withLast lineCount unknown
    have wholeDeclarations := document.checkDeclarations_withLast lineCount unknown
    rw [tableRun] at wholeTable
    rw [declarationsRun] at wholeDeclarations
    obtain ⟨before, behind, flat, wholeFlat⟩ :=
      document.stages_withLast lineCount unknown stillForeign settings sections declarations
    have line := congrArg Span.first span
    rw [Span.lineAt, heading.number_headingAfter] at line
    have last : ∀ diagnostic ∈ (document.stages settings sections declarations).flatten,
        (Section.ShapeDefect.unknown.diagnostic (part.moved (.after front))).sortsBefore
          diagnostic = false := fun _ =>
      Document.sortsBefore_unknown read ended tableRun declarationsRun settings line
    have added : Section.ShapeDefect.unknown.diagnostic (part.moved (.after front)) =
        ⟨.info, "UnknownSection", Section.ShapeDefect.unknown.message part,
          .lineAt (heading.headingAfter front).number (heading.headingAfter front).offset,
          some .unknown, none⟩ := by
      rw [← span, ← isUnknown.unknown]
      rfl
    rw [validate_of_read wholeRead wholeTable wholeDeclarations,
      Report.ofFindings_last flat wholeFlat last rfl, added]

/-- A text with an Index and nothing else. -/
def indexText : String :=
  "# T\n## Index\n- **m**\n"

/-- A section of unknown kind with what would be a module, a class, a list item and an Index
elsewhere. -/
def unknownText : String :=
  "## Notes\n### Module: n\n#### class A\n- **n**\n\x60\x60\x60go\n## Index\n\x60\x60\x60"

theorem trailing_unknown_section_is_inert_of_module :
    ∃ document heading part report,
      Document.ofText indexText = .ok (document, none) ∧ IsEnded indexText.toList ∧
      IsUnknownSection unknownText heading part ∧
      (∀ block ∈ part.codeBlocks,
        Language.canonical block.language ≠ some document.exampleLanguage) ∧
      validate indexText .default none = .ok report ∧
      ∃ line ∈ (Source.ofString (indexText ++ unknownText)).lines,
        line.number = (Source.ofString indexText).lines.length + 1 ∧
        line.characters = heading.content ∧
        validate (indexText ++ unknownText) .default none = .ok
          { report with
            diagnostics := report.diagnostics ++
              [⟨.info, "UnknownSection", Section.ShapeDefect.unknown.message part,
                .lineAt line.number line.offset, some .unknown, none⟩] } := by
  obtain ⟨document, read, language⟩ : ∃ document,
      Document.ofText indexText = .ok (document, none) ∧
        document.exampleLanguage = "python" := ⟨_, rfl, rfl⟩
  obtain ⟨other, part, otherRead, sections, unknown, languages⟩ : ∃ other part,
      Document.ofText unknownText = .ok (other, none) ∧ other.sections = [part] ∧
        part.kind = .unknown ∧ part.codeBlocks.map CodeBlock.language = [some "go"] :=
    ⟨_, _, rfl, rfl, rfl, rfl⟩
  obtain ⟨report, run⟩ : ∃ report, validate indexText .default none = .ok report := ⟨_, rfl⟩
  have last : indexText.toList.getLast? = some '\n' := by decide +kernel
  have ended : IsEnded indexText.toList := by
    intro own member
    rw [last] at member
    cases member
    rfl
  have isUnknown : IsUnknownSection unknownText ⟨"## Notes".toList, ['\n']⟩ part :=
    ⟨by decide +kernel, ⟨"Notes".toList, by decide +kernel⟩, ⟨other, otherRead, sections⟩, unknown⟩
  have foreign : ∀ block ∈ part.codeBlocks,
      Language.canonical block.language ≠ some document.exampleLanguage := by
    intro block member
    have own : block.language ∈ [some "go"] := languages ▸ List.mem_map_of_mem member
    rw [List.mem_singleton.mp own, language]
    decide
  exact ⟨document, _, part, report, read, ended, isUnknown, foreign, run,
    trailing_unknown_section_is_inert read ended isUnknown foreign run⟩

end LlmTxt

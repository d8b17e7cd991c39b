/-
This file shows that the breaks between the lines of a text have no say in the report on it. What is
read of a text hangs on its lines, and these say the same whatever breaks end them. All that can be
told of the breaks is at which byte a line begins. The stages of a check never ask for that; they only
hand it on in the spans of what they report.

The text of code is compared along with all else here. It is put together from lines with line feeds
between them and taken apart again at line feeds, so no carriage return can have been kept in it.
-/

import LlmTxt.Proofs.Document.Offsets
import LlmTxt.Proofs.Source.Endings
import LlmTxt.Proofs.Validation.Masking

namespace LlmTxt

/-! ### Reports without offsets -/

/-- A report without offsets. -/
def Report.unplaced (report : Report) : Report :=
  { report with diagnostics := report.diagnostics.map Diagnostic.unplaced }

/-- Findings without offsets. -/
def Findings.unplaced (findings : Findings) : Findings :=
  ⟨findings.stages.map (List.map Diagnostic.unplaced)⟩

/-- Findings that are the same but for offsets make reports that are. -/
theorem Report.unplaced_ofFindings {first second : Findings} (source : Option String)
    (same : first.unplaced = second.unplaced) :
    (ofFindings first source).unplaced = (ofFindings second source).unplaced := by
  have merged : first.merged.map Diagnostic.unplaced = second.merged.map Diagnostic.unplaced := by
    rw [first.unplaced_merged, second.unplaced_merged]
    exact congrArg Findings.merged same
  unfold unplaced ofFindings
  dsimp only
  rw [merged, Diagnostic.any_isError_congr merged]

/-! ### What the stages find -/

/-- The same section without its code, whether or not its offsets are counted. -/
theorem Section.masked_uncounted (part : Section) : (part.moved .uncounted).masked = part.masked := by
  have headings : part.headings.map (Heading.moved .uncounted) = part.headings := List.map_id _
  unfold moved masked
  dsimp only
  rw [List.map_map, List.map_map, headings]
  rfl

theorem Section.hasContent_uncounted (part : Section) :
    (part.moved .uncounted).hasContent = part.hasContent :=
  List.any_map

/-- References are looked for in code and put on lines. -/
theorem ReferenceSearch.references_uncounted (search : ReferenceSearch) (sections : List Section) :
    search.references (sections.map (Section.moved .uncounted)) = search.references sections := by
  have each (reading : ReferenceReading) (part : Section) :
      reading.readSection search (part.moved .uncounted) = reading.readSection search part := by
    unfold ReferenceReading.readSection Section.moved
    dsimp only
    rw [List.foldl_map]
    rfl
  unfold references
  rw [List.foldl_map]
  simp only [each]

namespace Document

theorem masked_uncounted (document : Document) :
    (document.moved .uncounted).masked = document.masked := by
  unfold moved masked
  dsimp only
  rw [List.map_map, List.map_congr_left fun part _ => part.masked_uncounted]
  rfl

theorem references_uncounted (document : Document) (allowed : List String) :
    (document.moved .uncounted).references allowed = document.references allowed := by
  have package : (document.moved .uncounted).package = document.package := rfl
  have language : (document.moved .uncounted).language = document.language := rfl
  have sections : (document.moved .uncounted).sections =
      document.sections.map (Section.moved .uncounted) := rfl
  unfold references
  rw [package, language, sections]
  simp only [ReferenceSearch.references_uncounted]

/-- A section is without content in one of two documents if it is in the other. -/
theorem hasContent_uncounted {document : Document}
    (content : ∀ part ∈ document.sections, part.masked.hasContent = part.hasContent) :
    ∀ part ∈ (document.moved .uncounted).sections, part.masked.hasContent = part.hasContent := by
  intro part member
  obtain ⟨own, inSections, rfl⟩ := List.mem_map.mp member
  rw [own.masked_uncounted, own.hasContent_uncounted]
  exact content own inSections

theorem checkReferences_uncounted (document : Document) (index sections : SymbolTable)
    (allowed : List String) :
    (document.moved .uncounted).checkReferences index sections allowed =
      document.checkReferences index sections allowed := by
  unfold checkReferences unresolved
  rw [references_uncounted]

/-- Up to offsets, all stages but the last can be carried out without the text of code. -/
theorem findings_unplaced {document : Document}
    (content : ∀ part ∈ document.sections, part.masked.hasContent = part.hasContent)
    (settings : Settings) :
    (document.findings settings).map Findings.unplaced =
      document.masked.moduleTable.bind fun sections =>
        document.masked.checkDeclarations.map fun declarations =>
          Findings.unplaced ⟨[Frontmatter.check document.masked.frontmatter
              settings.acceptedLanguages,
            document.masked.checkSections settings.strictOrder,
            declarations,
            document.masked.indexTable.resolve sections,
            document.checkReferences document.masked.indexTable sections settings.allowed]⟩ := by
  rw [findings_eq, moduleTable_masked, checkDeclarations_masked, indexTable_masked]
  cases document.moduleTable with
  | error failure => rfl
  | ok sections =>
    cases document.checkDeclarations with
    | error failure => rfl
    | ok declarations =>
      have parts := checkSections_masked content settings.strictOrder
      have tables := document.indexTable.resolve_unplaced sections
      have references : document.checkReferences document.indexTable sections.unplaced
          settings.allowed = document.checkReferences document.indexTable sections
            settings.allowed := rfl
      refine congrArg Except.ok ?_
      simp only [Findings.unplaced, stages, List.map_cons, List.map_nil, parts, tables, references]
      rfl

/-- The stages of a check find the same in a document without offsets, up to offsets. -/
theorem findings_uncounted {document : Document}
    (content : ∀ part ∈ document.sections, part.masked.hasContent = part.hasContent)
    (settings : Settings) :
    ((document.moved .uncounted).findings settings).map Findings.unplaced =
      (document.findings settings).map Findings.unplaced := by
  rw [findings_unplaced content, findings_unplaced (hasContent_uncounted content),
    masked_uncounted]
  simp only [checkReferences_uncounted]

end Document

/-! ### Two texts -/

/-- The report on what reading lines has come to. -/
def reportOn (settings : Settings) (source : Option String) :
    Except Yaml.Failure (Except FatalDefect Document) → Except CheckFailure Report
  | .error failure => .error (.frontmatter failure)
  | .ok (.error defect) => .ok (.ofFatal defect.diagnostic source)
  | .ok (.ok document) =>
    match document.findings settings with
    | .error failure => .error (.heading failure)
    | .ok findings => .ok (.ofFindings findings source)

theorem validate_eq_reportOn (text : String) (settings : Settings) (source : Option String) :
    validate text settings source =
      reportOn settings source (Document.ofLines (Source.ofString text).lines) := by
  unfold validate Document.ofText
  dsimp only
  rcases Document.ofLines (Source.ofString text).lines with failure | (defect | document) <;> rfl

/-- What has been read of a text is reported on alike without its offsets. -/
theorem reportOn_uncounted (text : String) (settings : Settings) (source : Option String) :
    (reportOn settings source ((Document.ofLines (Source.ofString text).lines).map
        (Document.outcomeMoved .uncounted))).map Report.unplaced =
      (reportOn settings source (Document.ofLines (Source.ofString text).lines)).map
        Report.unplaced := by
  rcases read : Document.ofLines (Source.ofString text).lines with failure | (defect | document)
  · rfl
  · cases defect <;> rfl
  · have content : ∀ part ∈ document.sections, part.masked.hasContent = part.hasContent :=
      fun _ => Document.hasContent_masked (Document.ofText_of_document read)
    have same := Document.findings_uncounted content settings
    unfold reportOn
    dsimp only [Except.map, Document.outcomeMoved]
    cases run : document.findings settings <;>
      cases twinRun : (document.moved .uncounted).findings settings <;>
      rw [run, twinRun] at same
    · cases same
      rfl
    · cases same
    · cases same
    · exact congrArg Except.ok (Report.unplaced_ofFindings source (Except.ok.inj same))

/-- Texts whose lines say the same have the same outcome, up to offsets. -/
theorem validate_of_same_characters {text other : String}
    (same : (Source.ofString text).lines.map Line.characters =
      (Source.ofString other).lines.map Line.characters)
    (settings : Settings) (source : Option String) :
    (validate text settings source).map Report.unplaced =
      (validate other settings source).map Report.unplaced := by
  rw [validate_eq_reportOn, validate_eq_reportOn, ← reportOn_uncounted, ← reportOn_uncounted other,
    Document.ofLines_of_same_characters same]

/-- Texts with the same lines have the same outcome. -/
theorem validate_of_same_lines {text other : String}
    (same : (Source.ofString text).lines = (Source.ofString other).lines) (settings : Settings)
    (source : Option String) : validate text settings source = validate other settings source := by
  rw [validate_eq_reportOn, validate_eq_reportOn, same]

/-- A line feed behind a text that does not end with a break changes nothing. -/
theorem validate_append_feed {text : String} {last : Char}
    (ends : text.toList.getLast? = some last) (goesOn : isLineBreak last = false)
    (settings : Settings) (source : Option String) :
    validate (text ++ "\n") settings source = validate text settings source := by
  have isBreak : IsLineBreak "\n".toList := Or.inr ⟨'\n', rfl, by decide⟩
  by_cases marked : text.toList.head? = some '\uFEFF'
  · obtain ⟨rest, begins⟩ := List.head?_eq_some_iff.mp marked
    cases rest with
    | nil =>
      -- A mark alone has no line, and behind it the line feed ends one. But that line is blank.
      have text_eq : text = "\uFEFF" := String.toList_inj.mp begins
      rw [text_eq]
      rfl
    | cons next more =>
      rw [begins, List.getLast?_cons_cons, ← Source.ofString_marked begins] at ends
      exact validate_of_same_lines (Source.lines_append_break isBreak ends goesOn) settings source
  · rw [← Source.ofString_characters marked] at ends
    exact validate_of_same_lines (Source.lines_append_break isBreak ends goesOn) settings source

/-- Line endings do not matter. Let line feeds be the only breaks of a text. With another break in
place of each, be it a carriage return with its line feed or a carriage return alone, a check has the
same outcome: it fails alike or comes to the same report, up to the offsets of the spans in it. And if
a line feed is put behind a text that ends with none and is not empty, or a byte order mark before a
text that begins with none, the outcome is the same with all offsets. -/
theorem line_endings_do_not_matter {text : String} (feeds : BreaksByFeeds text.toList)
    (settings : Settings) (source : Option String) :
    (∀ ending : String, IsLineBreak ending.toList →
      (validate (respelled ending text) settings source).map Report.unplaced =
        (validate text settings source).map Report.unplaced) ∧
    (text ≠ "" → text.toList.getLast? ≠ some '\n' →
      validate (text ++ "\n") settings source = validate text settings source) ∧
    (text.toList.head? ≠ some '\uFEFF' →
      validate ("\uFEFF" ++ text) settings source = validate text settings source) := by
  refine ⟨fun ending isBreak => ?_, fun nonempty unended => ?_, fun unmarked => ?_⟩
  · exact validate_of_same_characters (Source.characters_lines_respelled isBreak feeds) settings
      source
  · cases ends : text.toList.getLast? with
    | none => exact absurd (String.toList_inj.mp (List.getLast?_eq_none_iff.mp ends)) nonempty
    | some last =>
      have goesOn : isLineBreak last = false := by
        refine Bool.eq_false_iff.mpr fun broken => unended ?_
        rw [ends, feeds last (List.mem_of_getLast? ends) broken]
      exact validate_append_feed ends goesOn settings source
  · exact validate_of_same_lines (congrArg Source.lines (Source.ofString_withMark unmarked)) settings
      source

/-- A text with a frontmatter, code of two lines and no line feed at its end. -/
def codedText : String :=
  "---\npackage: p\n---\n## Index\n- **p**\n## x\n\x60\x60\x60python\nimport p\np.q\n\x60\x60\x60"

theorem line_endings_do_not_matter_for_code :
    BreaksByFeeds codedText.toList ∧
      (validate (respelled "\r\n" codedText) .default none).map Report.unplaced =
        (validate codedText .default none).map Report.unplaced ∧
      (validate (respelled "\r" codedText) .default none).map Report.unplaced =
        (validate codedText .default none).map Report.unplaced ∧
      validate (codedText ++ "\n") .default none = validate codedText .default none ∧
      validate ("\uFEFF" ++ codedText) .default none = validate codedText .default none := by
  have feeds : BreaksByFeeds codedText.toList := by
    have checked : (codedText.toList.all fun character =>
        !isLineBreak character || character == '\n') = true := by decide +kernel
    intro character member isBreak
    simpa [isBreak] using List.all_eq_true.mp checked character member
  obtain ⟨respelled, ended, marked⟩ := line_endings_do_not_matter feeds .default none
  exact ⟨feeds, respelled "\r\n" (Or.inl rfl), respelled "\r" (Or.inr ⟨'\r', rfl, rfl⟩),
    ended (by decide) (by decide +kernel), marked (by decide +kernel)⟩

end LlmTxt

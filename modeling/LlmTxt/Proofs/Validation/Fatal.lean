/-
This file says which texts make a fatal report. There are two conditions, and both can be read off
the lines of the text: its frontmatter is not closed, or a line of its body opens code that nothing
closes. Where one of them holds, the report has the one diagnostic that says so, and nothing of the
document is kept; in every other case the report is not fatal. Code that is left open can be mended
at the end of the text.
-/

import LlmTxt.Proofs.Document.Fatal
import LlmTxt.Proofs.Validation.Stages

namespace LlmTxt

open Document

/-- What has been read of a text is fatal under the two conditions exactly. -/
structure Document.FailsExactly (text : String) (document : Document) (fatal : Option FatalDefect) :
    Prop where
  /-- The frontmatter is malformed where a heading or the end comes before its closing line. -/
  malformed_iff : (∃ defect ∈ fatal, defect.code = .malformedFrontmatter) ↔
    HasUnclosedFrontmatter (Source.ofString text).lines
  /-- Otherwise, code is unterminated at the line that opens it. -/
  unterminated_iff : ∀ number,
    (∃ defect ∈ fatal, defect.code = .unterminatedCodeBlock ∧ defect.span.first = number) ↔
      ¬HasUnclosedFrontmatter (Source.ofString text).lines ∧
        ∃ fence, OpensUnclosedCode text number fence
  /-- A line break and the mark of the fence at the end mend it. -/
  mended : ¬HasUnclosedFrontmatter (Source.ofString text).lines → ∀ number fence,
    OpensUnclosedCode text number fence → ∀ ending : String, IsLineBreak ending.toList →
      ∃ complete, ofText (text ++ ending ++ String.ofList fence.mark) = .ok (complete, none)
  /-- The report holds the one diagnostic, and nothing is kept of the document. -/
  reported : ∀ defect ∈ fatal, document.sections = [] ∧ document.frontmatter = none ∧
    ∀ settings source, validate text settings source = .ok ⟨source, [defect.diagnostic], false, true⟩
  /-- No other report is fatal. -/
  fatal_iff : ∀ settings source report, validate text settings source = .ok report →
    (report.fatal = true ↔ HasUnclosedFrontmatter (Source.ofString text).lines ∨
      ∃ number fence, OpensUnclosedCode text number fence)

section Read

variable {text : String} {document : Document} {fatal : Option FatalDefect}
  (read : ofText text = .ok (document, fatal))

include read

/-- There is a fatal defect under one of the two conditions. -/
theorem Document.isSome_fatal_iff :
    fatal.isSome = true ↔ HasUnclosedFrontmatter (Source.ofString text).lines ∨
      ∃ number fence, OpensUnclosedCode text number fence := by
  rw [Option.isSome_iff_exists]
  constructor
  · rintro ⟨defect, found⟩
    cases code : defect.code with
    | malformedFrontmatter => exact Or.inl ((malformed_iff read).mp ⟨defect, found, code⟩)
    | unterminatedCodeBlock =>
      exact Or.inr ⟨_, ((unterminated_iff read).mp ⟨defect, found, code, rfl⟩).2⟩
    | _ => cases defect <;> cases code
  · intro condition
    by_cases unclosed : HasUnclosedFrontmatter (Source.ofString text).lines
    · obtain ⟨defect, found, _⟩ := (malformed_iff read).mpr unclosed
      exact ⟨defect, found⟩
    · obtain ⟨number, opens⟩ := condition.resolve_left unclosed
      obtain ⟨defect, found, _⟩ := (unterminated_iff read).mpr ⟨unclosed, opens⟩
      exact ⟨defect, found⟩

/-- A report is fatal where the reading of the document has failed. -/
theorem fatal_eq_isSome {settings : Settings} {source : Option String} {report : Report}
    (run : validate text settings source = .ok report) : report.fatal = fatal.isSome := by
  rcases validate_cases run with ⟨_, defect, own, rfl⟩ | ⟨_, _, _, own, _, _, rfl⟩
  · rw [read] at own
    cases own
    rfl
  · rw [read] at own
    cases own
    rfl

end Read

/-- The two fatal conditions are exact, for every text that is read or fails to be read without an
exception. -/
theorem fatal_conditions_exact {text : String} {document : Document} {fatal : Option FatalDefect}
    (read : ofText text = .ok (document, fatal)) : FailsExactly text document fatal where
  malformed_iff := malformed_iff read
  unterminated_iff _ := unterminated_iff read
  mended closed _ _ opens _ isBreak := ofText_append_mark read closed opens isBreak
  reported := by
    rintro defect found
    rw [Option.mem_def.mp found] at read
    rw [(ofText_eq_defect read).2]
    refine ⟨rfl, rfl, fun settings source => ?_⟩
    unfold validate
    rw [read]
    rfl
  fatal_iff settings source report run := by
    rw [fatal_eq_isSome read run]
    exact isSome_fatal_iff read

/-- A text with a frontmatter, and code that neither another fence nor a shorter one closes. -/
def openText : String :=
  "---\n\n---\n## Index\n~~~~ py\n\x60\x60\x60\x60\n~~~"

theorem fatal_conditions_exact_of_fences :
    ∃ document fatal, ofText openText = .ok (document, fatal) ∧
      fatal.map (fun defect => (defect.code, defect.span.first)) =
        some (.unterminatedCodeBlock, 5) ∧
      FailsExactly openText document fatal := by
  obtain ⟨document, fatal, read, found⟩ : ∃ document fatal,
      ofText openText = .ok (document, fatal) ∧
      fatal.map (fun defect => (defect.code, defect.span.first)) =
        some (.unterminatedCodeBlock, 5) := ⟨_, _, rfl, by decide +kernel⟩
  exact ⟨document, fatal, read, found, fatal_conditions_exact read⟩

end LlmTxt

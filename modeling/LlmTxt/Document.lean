/-
This file holds a document as reading leaves it: the frontmatter, the title, the
top-level sections in order, and how many lines there are. Reading can fail in two
ways that leave nothing to check, and then the document holds only the diagnostic
that says so.
-/

import LlmTxt.Diagnostic
import LlmTxt.Frontmatter
import LlmTxt.Section

namespace LlmTxt

/-- A document as reading leaves it. -/
structure Document where
  frontmatter : Option Frontmatter
  title : Option String
  sections : List Section
  diagnostics : List Diagnostic
  lineCount : Nat
deriving Repr

namespace Document

/-- The sections of a kind, in order. -/
def sectionsOf (document : Document) (kind : SectionKind) : List Section :=
  document.sections.filter (·.kind == kind)

/-- The first section of a kind. -/
def first? (document : Document) (kind : SectionKind) : Option Section :=
  document.sections.find? (·.kind == kind)

/-- The module sections, in order. -/
def moduleSections (document : Document) : List Section :=
  document.sectionsOf .moduleSection

/-- The package that the frontmatter names. -/
def package (document : Document) : Option String :=
  document.frontmatter.bind (·.get? "package")

/-- The language that the frontmatter names. -/
def language (document : Document) : Option String :=
  document.frontmatter.bind (·.get? "language")

end Document

/-- Why nothing of a document can be checked. -/
inductive FatalDefect where
  /-- A heading comes before the line that closes the frontmatter. -/
  | headingInFrontmatter (line : Nat)
  /-- No line closes the frontmatter. -/
  | unclosedFrontmatter (lineCount : Nat)
  /-- No fence closes the code block that begins on a line. -/
  | unclosedCode (line offset lineCount : Nat) (kind : Option SectionKind)
deriving DecidableEq, Repr

namespace FatalDefect

/-- The code under which a fatal defect is reported. -/
def code : FatalDefect → Code
  | headingInFrontmatter _ | unclosedFrontmatter _ => .malformedFrontmatter
  | unclosedCode .. => .unterminatedCodeBlock

/-- The wording of a fatal defect. -/
def message : FatalDefect → String
  | headingInFrontmatter line =>
    "Frontmatter opened on line 1 is not closed by '---' before the heading on line " ++
      toString line
  | unclosedFrontmatter _ => "Frontmatter opened on line 1 is never closed by '---'"
  | unclosedCode line _ _ _ =>
    "Fenced code block opened on line " ++ toString line ++ " is never closed"

/-- The lines that a fatal defect is about. -/
def span : FatalDefect → Span
  | headingInFrontmatter line => ⟨1, line, some 0⟩
  | unclosedFrontmatter lineCount => ⟨1, max lineCount 1, some 0⟩
  | unclosedCode line offset lineCount _ => ⟨line, max lineCount line, some offset⟩

/-- The section that a fatal defect concerns. -/
def kind? : FatalDefect → Option SectionKind
  | headingInFrontmatter _ | unclosedFrontmatter _ => some .frontmatter
  | unclosedCode _ _ _ kind => kind

/-- The diagnostic that reports a fatal defect, which is always an error. -/
def diagnostic (defect : FatalDefect) : Diagnostic :=
  ⟨.error, defect.code.name, defect.message, defect.span, defect.kind?, none⟩

end FatalDefect

end LlmTxt

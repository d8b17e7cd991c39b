/-
This file checks one document from its text. A fatal defect ends the check. Otherwise
the stages follow each other: the frontmatter, the sections, the headings that declare
objects, the two symbol tables against each other, and the references of the example
code. Nothing of a document's form stops a check but two things: a number in the
frontmatter that no character or integer answers to, and a heading whose word names a
kind but for a letter beyond ASCII.
-/

import LlmTxt.CrossReference
import LlmTxt.Document.Reading
import LlmTxt.Example.Resolution
import LlmTxt.Frontmatter.Rules
import LlmTxt.Report
import LlmTxt.Section.Rules
import LlmTxt.Settings
import LlmTxt.Symbol.Declaration

namespace LlmTxt

/-- Why a document cannot be checked to the end. -/
inductive CheckFailure where
  | frontmatter (failure : Yaml.Failure)
  | heading (failure : UnknownWord)
deriving DecidableEq, Repr

namespace CheckFailure

/-- The wording of a failure. -/
def message : CheckFailure → String
  | frontmatter failure => failure.message
  | heading failure => failure.message

end CheckFailure

namespace Document

/-- What the stages of a check find in a document that has been read. -/
def findings (document : Document) (settings : Settings) : Except UnknownWord Findings := do
  let index := document.indexTable
  let sections ← document.moduleTable
  let declarations ← document.checkDeclarations
  return ((((Findings.none.add
    (Frontmatter.check document.frontmatter settings.acceptedLanguages)).add
    (document.checkSections settings.strictOrder)).add
    declarations).add
    (index.resolve sections)).add
    (document.checkReferences index sections settings.allowed)

end Document

/-- The report on the text of a document. -/
def validate (text : String) (settings : Settings) (source : Option String) :
    Except CheckFailure Report :=
  match Document.ofText text with
  | .error failure => .error (.frontmatter failure)
  | .ok (_, some defect) => .ok (.ofFatal defect.diagnostic source)
  | .ok (document, none) =>
    match document.findings settings with
    | .error failure => .error (.heading failure)
    | .ok findings => .ok (.ofFindings findings source)

end LlmTxt

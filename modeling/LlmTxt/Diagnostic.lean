/-
This file holds diagnostics, the form in which every check reports what it found:
how grave the defect is, under which code it is reported, what is wrong, which
lines it is about, and which section and symbol it concerns. The code is text,
because a report also takes diagnostics from outside the catalog.
-/

import LlmTxt.Diagnostic.Catalog
import LlmTxt.Section.Kind
import LlmTxt.Span

namespace LlmTxt

/-- One reported defect. -/
structure Diagnostic where
  severity : Severity
  code : String
  message : String
  span : Span
  kind? : Option SectionKind
  symbol : Option String
deriving DecidableEq, Repr, Inhabited

namespace Diagnostic

/-- A defect under a code of the catalog, in a section of a kind. How grave it is is for the check
to say that finds it. -/
def ofCode (severity : Severity) (code : Code) (message : String) (span : Span)
    (kind : SectionKind) : Diagnostic :=
  ⟨severity, code.name, message, span, some kind, none⟩

/-- The same diagnostic about a symbol. -/
def about (diagnostic : Diagnostic) (symbol : String) : Diagnostic :=
  { diagnostic with symbol := some symbol }

/-- Whether a diagnostic fails its document. -/
def isError (diagnostic : Diagnostic) : Bool :=
  diagnostic.severity == .error

end Diagnostic

end LlmTxt

/-
This file assembles reports. The diagnostics of all stages are put together in the
order of the stages and then sorted by line, severity and code; those that agree in
all three stay in the order in which they came. A document is in order if no
diagnostic is an error. A fatal defect makes a report of its own.
-/

import LlmTxt.Diagnostic

namespace LlmTxt

/-- The result of checking one document. -/
structure Report where
  source : Option String
  diagnostics : List Diagnostic
  ok : Bool
  fatal : Bool
deriving DecidableEq, Repr

namespace Diagnostic

/-- Whether a diagnostic may stand before another in a report: by line, then the graver first, then
by code. -/
def sortsBefore (first second : Diagnostic) : Bool :=
  first.span.first < second.span.first ||
    (first.span.first == second.span.first &&
      (first.severity.rank < second.severity.rank ||
        (first.severity.rank == second.severity.rank && decide (first.code ≤ second.code))))

end Diagnostic

/-- The diagnostics that the stages of a check have found, stage by stage. -/
structure Findings where
  stages : List (List Diagnostic)
deriving DecidableEq, Repr

namespace Findings

/-- Nothing found yet. -/
def none : Findings := ⟨[]⟩

/-- Adds what one more stage has found. -/
def add (findings : Findings) (diagnostics : List Diagnostic) : Findings :=
  ⟨findings.stages ++ [diagnostics]⟩

/-- All diagnostics, sorted. -/
def merged (findings : Findings) : List Diagnostic :=
  findings.stages.flatten.mergeSort Diagnostic.sortsBefore

/-- Whether some stage has found an error. -/
def hasErrors (findings : Findings) : Bool :=
  findings.stages.any fun diagnostics => diagnostics.any Diagnostic.isError

end Findings

namespace Report

/-- The report of what the stages have found. -/
def ofFindings (findings : Findings) (source : Option String) : Report :=
  let diagnostics := findings.merged
  ⟨source, diagnostics, !diagnostics.any Diagnostic.isError, false⟩

/-- The report of a fatal defect: the one diagnostic that says what it is. -/
def ofFatal (diagnostic : Diagnostic) (source : Option String) : Report :=
  ⟨source, [diagnostic], false, true⟩

/-- How many diagnostics of a severity a report holds. -/
def count (report : Report) (severity : Severity) : Nat :=
  report.diagnostics.countP fun diagnostic => diagnostic.severity == severity

/-- Whether a report holds an error. -/
def hasErrors (report : Report) : Bool :=
  report.diagnostics.any Diagnostic.isError

/-- The diagnostics of a report under a code. -/
def byCode (report : Report) (code : String) : List Diagnostic :=
  report.diagnostics.filter (·.code == code)

end Report

end LlmTxt

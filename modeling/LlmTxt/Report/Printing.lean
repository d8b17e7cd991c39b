/-
This file prints reports. For a reader a report is a line with its verdict and, if there
are diagnostics, a table with a row for each; a panel below all reports counts them. For a
program the reports are one JSON object.
-/

import LlmTxt.Report
import LlmTxt.Terminal.Screen
import LlmTxt.Text.Json

namespace LlmTxt

open Terminal

/-! ### For a reader -/

namespace Severity

/-- The colour of a severity. -/
def colour : Severity → String
  | error => "red"
  | warning => "yellow"
  | info => "cyan"

/-- The name of a severity in its colour. -/
def shown (severity : Severity) : String :=
  "[" ++ severity.colour ++ "]" ++ severity.name ++ "[/" ++ severity.colour ++ "]"

end Severity

/-- The cells of a diagnostic in the table of its report. -/
def Diagnostic.cells (diagnostic : Diagnostic) : List String :=
  [diagnostic.span.text, diagnostic.severity.shown, diagnostic.code, diagnostic.message]

namespace Report

/-- The verdict of a report. -/
def verdict (report : Report) : String :=
  if report.fatal then "[red]💥 fatal parse error[/red]"
  else if report.ok then "[green]✅ passed[/green]"
  else "[red]❌ failed[/red]"

/-- What is printed of a report on a console. -/
def printouts (report : Report) (console : Console) : List Printout :=
  printText console ("\n[bold]" ++ report.source.getD "" ++ "[/bold]  " ++ report.verdict) ::
    if report.diagnostics.isEmpty then []
    else [printTable console [⟨"Line", .right⟩, ⟨"Severity", .left⟩, ⟨"Code", .left⟩]
      ⟨"Message", .left⟩ (report.diagnostics.map Diagnostic.cells)]

/-- How many diagnostics of a severity some reports hold. -/
def total (reports : List Report) (severity : Severity) : Nat :=
  reports.foldr (fun report known => report.count severity + known) 0

/-- The lines that count the documents that pass and the diagnostics. -/
def countLines (reports : List Report) : List String :=
  ["📊 " ++ toString (reports.countP Report.ok) ++ "/" ++ toString reports.length ++
      " documents passed",
    "Errors: " ++ toString (total reports .error) ++
      "  Warnings: " ++ toString (total reports .warning) ++
      "  Infos: " ++ toString (total reports .info)]

/-- What is printed below some reports on a console. -/
def summary (reports : List Report) (console : Console) : List Printout :=
  [printText console "\n", printPanel console (countLines reports)]

end Report

/-! ### For a program -/

/-- A span as JSON. -/
def Span.json (span : Span) : JsonValue :=
  .object [("start", .count span.first), ("end", .count span.last),
    ("offset", (span.offset.map JsonValue.count).getD .null)]

/-- A diagnostic as JSON. -/
def Diagnostic.json (diagnostic : Diagnostic) : JsonValue :=
  .object [("severity", .text diagnostic.severity.name), ("code", .text diagnostic.code),
    ("message", .text diagnostic.message), ("span", diagnostic.span.json),
    ("section", .ofText? (diagnostic.kind?.map SectionKind.name)),
    ("symbol", .ofText? diagnostic.symbol)]

/-- A report as JSON. -/
def Report.json (report : Report) : JsonValue :=
  .object [("source", .ofText? report.source),
    ("diagnostics", .list (report.diagnostics.map Diagnostic.json)),
    ("ok", .truth report.ok), ("fatal", .truth report.fatal)]

/-- Some reports as JSON. -/
def Report.jsonOfAll (reports : List Report) : JsonValue :=
  .object [("ok", .truth (reports.all Report.ok)), ("reports", .list (reports.map Report.json))]

end LlmTxt

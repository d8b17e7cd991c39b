/-
This file runs the command line over a file system and an environment, on a console. A
check loads the settings, finds the documents, reads them, checks them, and prints the
reports. The exit status is zero if every document passes, one if one fails, and two if
there is nothing to check or something stands in the way. What breaks a run off instead
leaves nothing but its cause.
-/

import LlmTxt.Batch
import LlmTxt.CommandLine.Arguments
import LlmTxt.Discovery
import LlmTxt.Report.Printing
import LlmTxt.Settings.Loading
import LlmTxt.Terminal.Literal

namespace LlmTxt

open Terminal Text

/-- The version of the program. -/
def programVersion : String := "0.1.0"

/-- How a run ends: what it has printed, and its exit status. -/
structure Outcome where
  output : String
  status : Nat
deriving DecidableEq, Repr

namespace Outcome

/-- The exit status of a run whose documents all pass. -/
def passed : Nat := 0

/-- The exit status of a run with a document that fails, or that breaks off. -/
def failed : Nat := 1

/-- The exit status of a run that cannot do what it is asked to. -/
def misused : Nat := 2

end Outcome

/-! ### What stands in the way -/

/-- Why documents are not checked. -/
inductive RunFailure where
  | load (failure : LoadFailure)
  | overrides (refusal : SettingsRefusal)
  | discovery (failure : DiscoveryFailure)
  | noDocuments
  | notUtf8 (failure : Utf8Failure)
  | batch (failure : BatchFailure)
deriving DecidableEq, Repr

namespace Yaml.DataFailure

/-- Whether data are refused for their value, rather than for what cannot be done with them. -/
def isValueRefusal : DataFailure → Bool
  | text failure => !failure.isOverflow
  | scalar (.unknownTruth _) | scalar .emptyNumber | scalar .notTimestamp => false
  | scalar .tooLarge | scalar .notText => false
  | scalar _ => true

end Yaml.DataFailure

namespace RunFailure

/-- Whether a failure is printed. All others break the run off. -/
def isPrinted : RunFailure → Bool
  | load (.badData failure) => failure.isValueRefusal
  | load (.nameless _) | load (.unordered ..) | load (.tooLong _) => false
  | load (.refused refusal) | overrides refusal => refusal == .invalid
  | batch (.check (.frontmatter failure)) => !failure.isOverflow
  | batch (.check (.heading _)) | discovery (.tooLong _) => false
  | _ => true

/-- The wording of a failure. -/
def message : RunFailure → String
  | noDocuments => "No llm.txt files found"
  | load failure => failure.message
  | overrides refusal => refusal.message
  | discovery failure => failure.message
  | notUtf8 failure => failure.message
  | batch failure => failure.message

/-- The details of a failure on a console. -/
def details (console : Console) : RunFailure → String
  | load failure => if failure.hasDetails then console.details failure.message else ""
  | _ => ""

/-- What is printed of a failure on a console. -/
def text (console : Console) (failure : RunFailure) : String :=
  match failure with
  | noDocuments => "[red]❌ " ++ failure.message ++ "[/red]"
  | _ => "\n[red]❌ Error: " ++ failure.message ++ failure.details console ++ "[/red]"

end RunFailure

/-- What breaks a run off: something else than what is told of, or what keeps a text from being
printed. -/
inductive Breakdown where
  | failure (cause : RunFailure)
  | markup (cause : PrintFailure)
deriving DecidableEq, Repr

/-- The wording of what breaks a run off. -/
def Breakdown.message : Breakdown → String
  | failure cause => cause.message
  | markup cause => cause.message

namespace Outcome

/-- A run that prints something and ends with a status. -/
def ofPrintouts (printouts : List Printout) (status : Nat) : Except Breakdown Outcome :=
  ((showAll printouts).map fun shown => (⟨String.ofList shown, status⟩ : Outcome)).mapError .markup

/-- How a run ends on a console that fails. -/
def ofFailure (failure : RunFailure) (console : Console) : Except Breakdown Outcome :=
  if failure.isPrinted then ofPrintouts [printText console (failure.text console)] misused
  else .error (.failure failure)

end Outcome

/-! ### The commands -/

namespace CheckRequest

/-- What a request lays over the settings. -/
def overrides (request : CheckRequest) : Overrides :=
  ⟨some (.items (request.languages.map .text)), some (.items (request.allowed.map .text)),
    request.strictOrder⟩

/-- A document as it is checked: under its path, and with line feeds for line breaks. -/
def readDocument (workspace : Workspace) (parts : List String) : Except RunFailure BatchItem :=
  let path : Path := ⟨.root, parts⟩
  ((fileText ((workspace.read? path).getD [])).map fun text =>
    (⟨path.text, String.ofList text⟩ : BatchItem)).mapError .notUtf8

/-- The reports on the documents that are to be checked. -/
def reports (request : CheckRequest) (workspace : Workspace) (environment : Environment) :
    Except RunFailure (List Report) := do
  let loaded ← (Settings.load workspace request.settings (some environment)).mapError .load
  let settings ← (loaded.withOverrides request.overrides).mapError RunFailure.overrides
  let search := DocumentSearch.ofNames [] []
  let documents ← (search.discover workspace request.paths).mapError RunFailure.discovery
  if documents.isEmpty then throw .noDocuments
  if request.workers < 1 then throw (.batch (.noWorkers request.workers))
  let items ← documents.mapM (readDocument workspace)
  (validateBatch items settings request.workers).mapError .batch

/-- What is printed of reports on a console. -/
def printouts (format : OutputFormat) (reports : List Report) (console : Console) :
    List Printout :=
  match format with
  | .text => reports.flatMap (·.printouts console) ++ Report.summary reports console
  | .json => [console.written ((Report.jsonOfAll reports).write 0 ++ ['\n'])]

/-- Runs a check. -/
def run (request : CheckRequest) (workspace : Workspace) (environment : Environment)
    (console : Console) : Except Breakdown Outcome :=
  match request.reports workspace environment with
  | .error failure => Outcome.ofFailure failure console
  | .ok reports =>
    Outcome.ofPrintouts (printouts request.format reports console)
      (if reports.all Report.ok then Outcome.passed else Outcome.failed)

end CheckRequest

/-- The codes of the catalog, as they are printed on a console. -/
def printCodes (console : Console) : Printout :=
  printTable console [⟨"Code", .left⟩, ⟨"Severity", .left⟩] ⟨"Description", .left⟩
    (Code.all.map fun code => [code.name, code.severity.shown, code.description])

/-- Runs a command. -/
def Command.run (command : Command) (workspace : Workspace) (environment : Environment)
    (console : Console) : Except Breakdown Outcome :=
  match command with
  | check request => request.run workspace environment console
  | codes => Outcome.ofPrintouts [printCodes console] Outcome.passed
  | version =>
    Outcome.ofPrintouts [printText console ("llmtxt-check " ++ programVersion)] Outcome.passed

/-- Runs the command line with some arguments on a console. -/
def runCommandLineOn (console : Console) (arguments : List String) (workspace : Workspace)
    (environment : Environment) : Except Breakdown Outcome :=
  match Command.ofArguments arguments with
  | .error _ => .ok ⟨"", Outcome.misused⟩
  | .ok command => command.run workspace environment console

/-- Runs the command line with some arguments on a wide console. -/
def runCommandLine (arguments : List String) (workspace : Workspace)
    (environment : Environment) : Except Breakdown Outcome :=
  runCommandLineOn .wide arguments workspace environment

end LlmTxt

/-
This file judges the frontmatter of a document. There has to be one, it has to be a
mapping, and its four recognised keys have to be there and hold texts. The package
must not be empty. The language should be accepted, the version should be one, and
the summary should not be blank. Keys that are not recognised are not judged.
-/

import LlmTxt.Diagnostic
import LlmTxt.Frontmatter
import LlmTxt.Language
import LlmTxt.Version

namespace LlmTxt.Frontmatter

open Text

/-- What can be wrong with a frontmatter. -/
inductive Defect where
  | missing
  | faulty (fault : FrontmatterFault) (span : Span)
  | notText (key typeName : String) (span : Span)
  | missingKey (key : String) (span : Span)
  | emptyPackage (span : Span)
  | unexpectedLanguage (language : String) (accepted : List String) (span : Span)
  | invalidVersion (version : String) (span : Span)
  | emptySummary (span : Span)
deriving Repr

namespace Defect

/-- The code under which a defect is reported. -/
def code : Defect → Code
  | missing => .missingFrontmatter
  | faulty .. | notText .. | emptyPackage _ => .invalidFrontmatterField
  | missingKey .. => .missingFrontmatterField
  | unexpectedLanguage .. => .unexpectedLanguage
  | invalidVersion .. => .invalidVersion
  | emptySummary _ => .emptySummary

/-- How grave a defect is. -/
def severity : Defect → Severity
  | missing | faulty .. | notText .. | missingKey .. | emptyPackage _ => .error
  | unexpectedLanguage .. | invalidVersion .. | emptySummary _ => .warning

/-- The wording of a defect. -/
def message : Defect → String
  | missing =>
    "Document does not start with a '---' frontmatter block " ++
      "declaring package, version, language and summary"
  | faulty fault _ => fault.message
  | notText key typeName _ =>
    "Frontmatter key '" ++ key ++ "' must be a string, got " ++ typeName
  | missingKey key _ => "Frontmatter is missing required key '" ++ key ++ "'"
  | emptyPackage _ => "Frontmatter key 'package' is empty"
  | unexpectedLanguage language accepted _ =>
    "Language '" ++ language ++ "' is not one of the accepted languages: " ++
      (if accepted.isEmpty then "(none)" else ", ".intercalate accepted)
  | invalidVersion version _ =>
    "Version '" ++ version ++ "' is not a dotted numeric version such as '2.4.1' or '1.0rc1'"
  | emptySummary _ => "Frontmatter 'summary' is empty"

/-- The lines that a defect is about. -/
def span : Defect → Span
  | missing => .lineAt 1 0
  | faulty _ span => span
  | notText _ _ span => span
  | missingKey _ span => span
  | emptyPackage span => span
  | unexpectedLanguage _ _ span => span
  | invalidVersion _ span => span
  | emptySummary span => span

/-- The diagnostic that reports a defect. -/
def diagnostic (defect : Defect) : Diagnostic :=
  .ofCode defect.severity defect.code defect.message defect.span .frontmatter

end Defect

/-- The canonical names of the languages that are accepted, sorted and without repetition. -/
def acceptedNames (accepted : List String) : List String :=
  ((accepted.filterMap fun name => Language.canonical (some name)).eraseDups).mergeSort isOrdered

/-- The fault of a block that is no mapping. -/
def faultDefects (frontmatter : Frontmatter) : List Defect :=
  match frontmatter.fault with
  | none => []
  | some fault =>
    [.faulty fault ((frontmatter.faultLine.map Span.line).getD frontmatter.span)]

/-- What is wrong with a required key in itself. -/
def keyDefects (frontmatter : Frontmatter) (key : String) : List Defect :=
  match frontmatter.invalid.lookup key with
  | some typeName => [.notText key typeName (frontmatter.spanOf key)]
  | none =>
    if (frontmatter.get? key).isNone then [.missingKey key frontmatter.span] else []

/-- An empty package. -/
def packageDefects (frontmatter : Frontmatter) : List Defect :=
  match frontmatter.get? "package" with
  | some "" => [.emptyPackage (frontmatter.spanOf "package")]
  | _ => []

/-- A language that is not accepted. -/
def languageDefects (frontmatter : Frontmatter) (accepted : List String) : List Defect :=
  match frontmatter.get? "language" with
  | none => []
  | some language =>
    let names := acceptedNames accepted
    let isAccepted := match Language.canonical (some language) with
      | some name => names.contains name
      | none => false
    if isAccepted then []
    else [.unexpectedLanguage language names (frontmatter.spanOf "language")]

/-- A version that is none. -/
def versionDefects (frontmatter : Frontmatter) : List Defect :=
  match frontmatter.get? "version" with
  | none => []
  | some version =>
    if Version.isValid version.toList then []
    else [.invalidVersion version (frontmatter.spanOf "version")]

/-- A blank summary. -/
def summaryDefects (frontmatter : Frontmatter) : List Defect :=
  match frontmatter.get? "summary" with
  | none => []
  | some summary =>
    if isAllBlank summary.toList then [.emptySummary (frontmatter.spanOf "summary")] else []

/-- What is wrong with the frontmatter of a document, given the languages that are accepted. -/
def defects (frontmatter : Option Frontmatter) (accepted : List String) : List Defect :=
  match frontmatter with
  | none => [.missing]
  | some block =>
    block.faultDefects ++ recognizedKeys.flatMap block.keyDefects ++ block.packageDefects ++
      block.languageDefects accepted ++ block.versionDefects ++ block.summaryDefects

/-- The diagnostics of the frontmatter of a document. -/
def check (frontmatter : Option Frontmatter) (accepted : List String) : List Diagnostic :=
  (defects frontmatter accepted).map Defect.diagnostic

/-! ### Languages as they were given -/

/-- A list of accepted languages that cannot be written out, since a name in it is blank and
stands for no language: the blank names alone, or beside others that have to be sorted with them. -/
inductive UnwritableLanguages where
  | blankOnly
  | blankAmongOthers
deriving DecidableEq, Repr

/-- The wording of the refusal. -/
def UnwritableLanguages.message : UnwritableLanguages → String
  | blankOnly => "sequence item 0: expected str instance, NoneType found"
  | blankAmongOthers => "'<' not supported between instances of 'NoneType' and 'str'"

/-- What keeps a list of accepted languages from being written out. A name without characters
counts as none given; one of blanks only is given, and names nothing. -/
def unwritable? (accepted : List String) : Option UnwritableLanguages :=
  let named := (accepted.filter fun name => !name.isEmpty).map fun name =>
    Language.canonical (some name)
  if named.all Option.isSome then none
  else if named.all Option.isNone then some .blankOnly
  else some .blankAmongOthers

/-- A defect whose wording writes out the accepted languages. -/
def Defect.writesLanguages : Defect → Bool
  | unexpectedLanguage .. => true
  | _ => false

/-- The diagnostics of the frontmatter of a document for languages that need not be names. The
list is written out only where a language is reported, so only there it is refused. -/
def checkGiven (frontmatter : Option Frontmatter) (accepted : List String) :
    Except UnwritableLanguages (List Diagnostic) :=
  match unwritable? accepted with
  | none => .ok (check frontmatter accepted)
  | some unwritable =>
    if (defects frontmatter accepted).any Defect.writesLanguages then .error unwritable
    else .ok (check frontmatter accepted)

end LlmTxt.Frontmatter

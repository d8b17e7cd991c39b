/-
This file holds the catalog of diagnostic codes. Every defect that a document can
have is reported under exactly one code, and the catalog says for each code how
grave such a defect is unless a setting says otherwise, and what it means.
-/

namespace LlmTxt

/-! ### Severities -/

/-- How grave a diagnostic is. Only an error fails the document. -/
inductive Severity where
  | error
  | warning
  | info
deriving DecidableEq, Repr, Inhabited

namespace Severity

/-- The name by which reports cite a severity. -/
def name : Severity → String
  | error => "error"
  | warning => "warning"
  | info => "info"

/-- The severity that a name cites. -/
def ofName? : String → Option Severity
  | "error" => some error
  | "warning" => some warning
  | "info" => some info
  | _ => none

/-- The place of a severity when diagnostics of one line are sorted; the gravest comes first. -/
def rank : Severity → Nat
  | error => 0
  | warning => 1
  | info => 2

end Severity

/-! ### Codes -/

/-- The codes under which defects are reported, in the order of the checks that report them. -/
inductive Code where
  | malformedFrontmatter
  | unterminatedCodeBlock
  | missingFrontmatter
  | missingFrontmatterField
  | invalidFrontmatterField
  | unexpectedLanguage
  | invalidVersion
  | emptySummary
  | missingSection
  | missingRecommendedSection
  | sectionOutOfOrder
  | duplicateSection
  | unknownSection
  | emptySection
  | malformedIndex
  | emptyModuleSection
  | invalidModuleName
  | missingExampleCode
  | unrecognizedObjectHeader
  | undocumentedSymbol
  | unlistedSymbol
  | duplicateSymbol
  | moduleMismatch
  | kindMismatch
  | unknownSymbolReference
deriving DecidableEq, Repr, Inhabited

namespace Code

/-- The codes in the order of the catalog. -/
def all : List Code := [
  malformedFrontmatter, unterminatedCodeBlock, missingFrontmatter, missingFrontmatterField,
  invalidFrontmatterField, unexpectedLanguage, invalidVersion, emptySummary, missingSection,
  missingRecommendedSection, sectionOutOfOrder, duplicateSection, unknownSection, emptySection,
  malformedIndex, emptyModuleSection, invalidModuleName, missingExampleCode,
  unrecognizedObjectHeader, undocumentedSymbol, unlistedSymbol, duplicateSymbol, moduleMismatch,
  kindMismatch, unknownSymbolReference]

/-- The name by which reports cite a code. -/
def name : Code → String
  | malformedFrontmatter => "MalformedFrontmatter"
  | unterminatedCodeBlock => "UnterminatedCodeBlock"
  | missingFrontmatter => "MissingFrontmatter"
  | missingFrontmatterField => "MissingFrontmatterField"
  | invalidFrontmatterField => "InvalidFrontmatterField"
  | unexpectedLanguage => "UnexpectedLanguage"
  | invalidVersion => "InvalidVersion"
  | emptySummary => "EmptySummary"
  | missingSection => "MissingSection"
  | missingRecommendedSection => "MissingRecommendedSection"
  | sectionOutOfOrder => "SectionOutOfOrder"
  | duplicateSection => "DuplicateSection"
  | unknownSection => "UnknownSection"
  | emptySection => "EmptySection"
  | malformedIndex => "MalformedIndex"
  | emptyModuleSection => "EmptyModuleSection"
  | invalidModuleName => "InvalidModuleName"
  | missingExampleCode => "MissingExampleCode"
  | unrecognizedObjectHeader => "UnrecognizedObjectHeader"
  | undocumentedSymbol => "UndocumentedSymbol"
  | unlistedSymbol => "UnlistedSymbol"
  | duplicateSymbol => "DuplicateSymbol"
  | moduleMismatch => "ModuleMismatch"
  | kindMismatch => "KindMismatch"
  | unknownSymbolReference => "UnknownSymbolReference"

/-- How grave a defect of the code is by default. -/
def severity : Code → Severity
  | malformedFrontmatter | unterminatedCodeBlock | missingFrontmatter | missingFrontmatterField
  | invalidFrontmatterField | missingSection | malformedIndex | emptyModuleSection
  | invalidModuleName | undocumentedSymbol | duplicateSymbol | moduleMismatch => .error
  | unexpectedLanguage | invalidVersion | emptySummary | sectionOutOfOrder | duplicateSection
  | emptySection | missingExampleCode | unrecognizedObjectHeader | unlistedSymbol | kindMismatch
  | unknownSymbolReference => .warning
  | missingRecommendedSection | unknownSection => .info

/-- What a defect of the code is. -/
def description : Code → String
  | malformedFrontmatter => "Frontmatter not closed by --- before the first heading (fatal)"
  | unterminatedCodeBlock => "Fenced code block still open at end of input (fatal)"
  | missingFrontmatter => "Document does not start with a '---' frontmatter block"
  | missingFrontmatterField => "One of package, version, language, summary is absent"
  | invalidFrontmatterField =>
    "Frontmatter is not a valid YAML mapping, a recognised key is not a string, or package is empty"
  | unexpectedLanguage => "Frontmatter language is not an accepted ecosystem language"
  | invalidVersion => "Version is not a dotted numeric sequence"
  | emptySummary => "Frontmatter summary is blank"
  | missingSection => "Index or Module Sections missing"
  | missingRecommendedSection => "Core Concepts, Pitfalls or Global Examples missing"
  | sectionOutOfOrder => "Section appears out of canonical order (info when order is not strict)"
  | duplicateSection => "Section appears more than once (error for Index)"
  | unknownSection => "Heading outside the section vocabulary; content kept"
  | emptySection => "Core Concepts or Pitfalls has no content"
  | malformedIndex => "Index is not a two-level list of modules and labelled categories"
  | emptyModuleSection => "Module Section declares no level-4 object heading"
  | invalidModuleName => "Module heading does not name a dotted module"
  | missingExampleCode => "Global Examples has no fenced code block"
  | unrecognizedObjectHeader =>
    "Object heading outside the class/Function:/exception/method grammar"
  | undocumentedSymbol => "Listed in the Index but missing from its Module Section"
  | unlistedSymbol => "Documented in a Module Section but not listed in the Index"
  | duplicateSymbol => "Same name and kind declared twice in one module"
  | moduleMismatch => "Module present in only one of Index and Module Sections"
  | kindMismatch => "Same name listed and documented with different kinds"
  | unknownSymbolReference => "Example code references an undocumented package name"

end Code

end LlmTxt

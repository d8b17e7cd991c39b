/-
This file judges the sections of a document. An Index and a module section are
required and three kinds are recommended; the sections should come in the canonical
order, and those of most kinds at most once; and each section should have the shape
of its kind. A defect of shape is an error where the kind is required and a warning
elsewhere.
-/

import LlmTxt.Document
import LlmTxt.Outline.Reading

namespace LlmTxt

open Text

namespace Section

/-- How grave a defect of the shape of a section is. -/
def shapeSeverity (kind : SectionKind) : Severity :=
  if kind.status = .required then .error else .warning

/-- The level of the headings that declare objects. -/
def objectLevel : Nat := 4

/-- What can be wrong with the shape of one section. -/
inductive ShapeDefect where
  | index (problem : OutlineProblem)
  | unnamedModule
  | badModuleName (name : String)
  | noObject
  | noExample
  | empty
  | unknown
deriving DecidableEq, Repr

namespace ShapeDefect

/-- The code under which a defect of shape is reported. -/
def code : ShapeDefect → Code
  | index _ => .malformedIndex
  | unnamedModule | badModuleName _ => .invalidModuleName
  | noObject => .emptyModuleSection
  | noExample => .missingExampleCode
  | empty => .emptySection
  | unknown => .unknownSection

/-- The wording of a defect of shape in a section. -/
def message (part : Section) : ShapeDefect → String
  | index problem => problem.fault.message
  | unnamedModule =>
    "Module Section heading '" ++ part.title ++ "' does not name a module"
  | badModuleName name => "'" ++ name ++ "' is not a dotted module name"
  | noObject =>
    let name := part.moduleName.getD ""
    "Module Section '" ++ (if name.isEmpty then part.title else name) ++
      "' declares no objects (expected '#### class ...', '#### Function: ...' " ++
      "or '#### exception ...' headings)"
  | noExample => "'" ++ part.title ++ "' contains no fenced code block"
  | empty => "'" ++ part.title ++ "' section is empty"
  | unknown =>
    "Section '" ++ part.title ++
      "' is not part of the llm.txt vocabulary; its content is kept but not validated"

/-- The lines that a defect of shape in a section is about. -/
def span (part : Section) : ShapeDefect → Span
  | index problem => .line problem.line
  | unnamedModule | badModuleName _ | unknown => part.headingSpan
  | noObject | noExample | empty => part.span

/-- How grave a defect of shape in a section is. -/
def severity (part : Section) : ShapeDefect → Severity
  | unknown => .info
  | _ => shapeSeverity part.kind

/-- The diagnostic that reports a defect of shape in a section. -/
def diagnostic (part : Section) (defect : ShapeDefect) : Diagnostic :=
  ⟨defect.severity part, defect.code.name, defect.message part, defect.span part, some part.kind,
    none⟩

end ShapeDefect

/-- What is wrong with the name of a module section. -/
def nameDefects (part : Section) : List ShapeDefect :=
  let name := part.moduleName.getD ""
  if name.isEmpty then [.unnamedModule]
  else if Name.isPath name.toList then []
  else [.badModuleName name]

/-- A module section that declares nothing. -/
def objectDefects (part : Section) : List ShapeDefect :=
  if part.headings.any (·.level == objectLevel) then [] else [.noObject]

/-- What is wrong with the shape of a section. -/
def shapeDefects (part : Section) : List ShapeDefect :=
  match part.kind with
  | .index => (Outline.ofSection part).problems.map .index
  | .moduleSection => part.nameDefects ++ part.objectDefects
  | .globalExamples => if part.codeBlocks.isEmpty then [.noExample] else []
  | .coreConcepts | .pitfalls => if part.hasContent then [] else [.empty]
  | .unknown => [.unknown]
  | .frontmatter | .moduleSections => []

/-- The diagnostics of the shape of a section. -/
def checkShape (part : Section) : List Diagnostic :=
  part.shapeDefects.map (ShapeDefect.diagnostic part)

end Section

/-! ### Presence -/

namespace Document

/-- The recommended kinds. -/
def recommendedKinds : List SectionKind :=
  [.coreConcepts, .pitfalls, .globalExamples]

/-- The diagnostic of a missing section; it is put on the first line. -/
def missing (severity : Severity) (code : Code) (message : String) (kind : SectionKind) :
    Diagnostic :=
  .ofCode severity code message (.lineAt 1 0) kind

/-- The diagnostics of required and recommended sections that are missing. -/
def checkPresence (document : Document) : List Diagnostic :=
  let index := if (document.first? .index).isNone then
      [missing .error .missingSection "Required section 'Index' is missing" .index]
    else []
  let modules := if document.moduleSections.isEmpty then
      [missing .error .missingSection
        ("Required section 'Module Sections' is missing " ++
          "(no '### Module: <name>' section found)") .moduleSection]
    else []
  let recommended := (recommendedKinds.filter fun kind => (document.first? kind).isNone).map
    fun kind =>
      missing .info .missingRecommendedSection
        (kind.status.label ++ " section '" ++ kind.label ++ "' is missing") kind
  index ++ modules ++ recommended

end Document

/-! ### Order -/

namespace Section

/-- The section of the highest rank so far, once a section is read: a later one of equal rank does
not take its place. -/
def higher (highest : Option Section) (part : Section) : Option Section :=
  match highest with
  | none => if part.kind.rank.isSome then some part else none
  | some top => if top.kind.precedes part.kind then some part else some top

/-- The sections that come behind one of a higher rank, each with the first section that has the
highest rank before it. -/
def outOfOrder (highest : Option Section) : List Section → List (Section × Section)
  | [] => []
  | part :: rest =>
    match highest with
    | none => outOfOrder (higher none part) rest
    | some top =>
      if part.kind.precedes top.kind then
        (part, top) :: outOfOrder (some top) rest
      else outOfOrder (higher (some top) part) rest

/-- The diagnostic of a section behind one that it should come before. -/
def orderDiagnostic (strict : Bool) (part top : Section) : Diagnostic :=
  .ofCode (if strict then .warning else .info) .sectionOutOfOrder
    ("Section '" ++ part.kind.label ++ "' should come before '" ++ top.kind.label ++ "' (line " ++
      toString top.span.first ++ ")")
    part.headingSpan part.kind

/-- The diagnostics of sections out of the canonical order: warnings where the order is strict. -/
def checkOrder (strict : Bool) (sections : List Section) : List Diagnostic :=
  (outOfOrder none sections).map fun pair => orderDiagnostic strict pair.1 pair.2

/-! ### Repetition -/

/-- What may stand only once: a section of a kind, or the section of a module. -/
inductive Slot where
  | kind (taken : SectionKind)
  | module (name : String)
deriving DecidableEq, Repr

/-- What a section takes that may stand only once. -/
def slot? (part : Section) : Option Slot :=
  if part.kind.isSingleton then some (.kind part.kind)
  else
    match part.kind, part.moduleName with
    | .moduleSection, some name => if name.isEmpty then none else some (.module name)
    | _, _ => none

/-- The wording of what may stand only once. -/
def Slot.label : Slot → String
  | .kind taken => taken.label
  | .module name => "Module: " ++ name

/-- The sections that take what an earlier one has taken, each with the first that has taken it.
`seen` holds the sections before. -/
def repeated (seen : List Section) : List Section → List (Section × Slot × Section)
  | [] => []
  | part :: rest =>
    let more := repeated (seen ++ [part]) rest
    match part.slot? with
    | none => more
    | some slot =>
      match seen.find? fun earlier => earlier.slot? == some slot with
      | none => more
      | some first => (part, slot, first) :: more

/-- The diagnostic of a section that takes what `first` has taken; a second Index is an error. -/
def repetitionDiagnostic (part : Section) (slot : Slot) (first : Section) : Diagnostic :=
  .ofCode (if part.kind = .index then .error else .warning) .duplicateSection
    ("Section '" ++ slot.label ++ "' appears again (first on line " ++
      toString first.span.first ++ ")")
    part.headingSpan part.kind

/-- The diagnostics of sections that appear again. -/
def checkRepetition (sections : List Section) : List Diagnostic :=
  (repeated [] sections).map fun entry => repetitionDiagnostic entry.1 entry.2.1 entry.2.2

end Section

namespace Document

/-- The diagnostics of the sections of a document: presence, order, repetition, and shape. -/
def checkSections (document : Document) (strict : Bool) : List Diagnostic :=
  document.checkPresence ++ Section.checkOrder strict document.sections ++
    Section.checkRepetition document.sections ++ document.sections.flatMap Section.checkShape

end Document

end LlmTxt

/-
This file holds the kinds of section that a document is made of, the titles by
which a section of each kind is opened, and the place that each kind has in the
canonical order. Several titles open a section of one kind, and a title outside
the vocabulary opens a section of unknown kind.
-/

import LlmTxt.Text.Case
import LlmTxt.Text.Blank

namespace LlmTxt

open Text

/-- The kinds of section. The container of the module sections and a module section are kinds of
their own. -/
inductive SectionKind where
  | frontmatter
  | coreConcepts
  | pitfalls
  | index
  | moduleSections
  | moduleSection
  | globalExamples
  | unknown
deriving DecidableEq, Repr, Inhabited

namespace SectionKind

/-- The name by which reports cite a kind. -/
def name : SectionKind → String
  | frontmatter => "frontmatter"
  | coreConcepts => "core_concepts"
  | pitfalls => "pitfalls"
  | index => "index"
  | moduleSections => "module_sections"
  | moduleSection => "module_section"
  | globalExamples => "global_examples"
  | unknown => "unknown"

/-- All kinds, in the order of declaration. -/
def all : List SectionKind :=
  [frontmatter, coreConcepts, pitfalls, index, moduleSections, moduleSection, globalExamples,
    unknown]

/-- The kind that a name cites. -/
def ofName? (text : String) : Option SectionKind :=
  all.find? fun kind => kind.name == text

/-- The name by which messages call a kind. -/
def label : SectionKind → String
  | frontmatter => "Frontmatter"
  | coreConcepts => "Core Concepts"
  | pitfalls => "Pitfalls"
  | index => "Index"
  | moduleSections => "Module Sections"
  | moduleSection => "Module Section"
  | globalExamples => "Global Examples"
  | unknown => "Unknown"

/-- The place of a kind in the canonical order. The container of the module sections shares the
place of the module sections, and a section of unknown kind has none. -/
def rank : SectionKind → Option Nat
  | frontmatter => some 0
  | coreConcepts => some 1
  | pitfalls => some 2
  | index => some 3
  | moduleSections => some 4
  | moduleSection => some 4
  | globalExamples => some 5
  | unknown => none

/-- Whether a kind has an earlier place in the canonical order than another. -/
def precedes (kind other : SectionKind) : Bool :=
  match kind.rank, other.rank with
  | some first, some second => first < second
  | _, _ => false

/-- Whether a document should hold at most one section of the kind. -/
def isSingleton : SectionKind → Bool
  | coreConcepts | pitfalls | index | moduleSections | globalExamples => true
  | frontmatter | moduleSection | unknown => false

/-- How strongly a document is held to have a section of a kind. -/
inductive Status where
  | required
  | highlyRecommended
  | recommended
  | optional
deriving DecidableEq, Repr

/-- How strongly a document is held to have a section of the kind. -/
def status : SectionKind → Status
  | frontmatter | index | moduleSections | moduleSection => .required
  | coreConcepts | globalExamples => .highlyRecommended
  | pitfalls => .recommended
  | unknown => .optional

/-- The status as the beginning of a sentence. -/
def Status.label : Status → String
  | .required => "Required"
  | .highlyRecommended => "Highly recommended"
  | .recommended => "Recommended"
  | .optional => "Optional"

/-- The titles of the vocabulary, in the form that `normalizeTitle` gives them. -/
def vocabulary : List (String × SectionKind) := [
  ("core concepts", coreConcepts),
  ("pitfalls", pitfalls),
  ("common pitfalls", pitfalls),
  ("index", index),
  ("api index", index),
  ("module sections", moduleSections),
  ("modules", moduleSections),
  ("global examples", globalExamples),
  ("examples", globalExamples)]

/-- Characters that mark emphasis or code around a title. -/
def isDecoration (character : Char) : Bool :=
  character == '*' || character == '_' || character == '\x60'

/-- A title without its decoration: emphasis and code marks at the ends are dropped, white space
inside is one space, a colon at the end is dropped, and letters are small. -/
def normalizeTitle (title : List Char) : List Char :=
  let bare := trim (trimBy isDecoration (trim title))
  lower (trim (dropRightWhile (· == ':') (collapse isBlank ' ' bare)))

/-- The kind that a title opens. -/
def ofTitle (title : List Char) : SectionKind :=
  ((vocabulary.find? fun entry => entry.1.toList == normalizeTitle title).map (·.2)).getD unknown

end SectionKind

end LlmTxt

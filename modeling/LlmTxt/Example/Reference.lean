/-
This file collects the references that example code makes to the package of a
document: dotted names that begin with the import name of the package, written out or
through the names that import statements bind. Only code in the language of the
document counts, and strings and comments do not. Names that are allowed are passed
over, with all that begins with them.
-/

import LlmTxt.Example.Import
import LlmTxt.Example.Noise
import LlmTxt.Section

namespace LlmTxt

open Text

/-- A reference to the package, the line of the code on which it stands, and the kind of the
section. -/
structure Reference where
  text : String
  line : Nat
  kind : SectionKind
deriving DecidableEq, Repr

/-- What references are looked for: the import name of the package, the language of the code, and
the names that are allowed. -/
structure ReferenceSearch where
  package : List Char
  language : String
  allowed : List (List Char)
deriving Repr

namespace ReferenceSearch

/-- The language of examples in a document that names none. -/
def defaultLanguage : String := "python"

/-- The name under which a package is imported: small letters, and underscores for dashes. -/
def importName (package : List Char) : List Char :=
  lower ((trim package).map fun character => if character = '-' then '_' else character)

/-- The search for a package. The package itself is never allowed. -/
def ofPackage (package : String) (language : Option String) (allowed : List String) :
    ReferenceSearch :=
  let name := importName package.toList
  ⟨name, (Language.canonical language).getD defaultLanguage,
    (allowed.map String.toList).filter fun entry => lower entry != name⟩

/-- Whether the code has import statements that are followed. -/
def followsImports (search : ReferenceSearch) : Bool :=
  search.language == "python"

/-- Whether a dotted name begins with the import name of the package, but for case. -/
def isRooted (search : ReferenceSearch) (path : List Char) : Bool :=
  lower (path.takeWhile (· != '.')) == search.package

/-- The dotted names that a dotted name begins with, itself included. -/
def dottedStarts (path : List Char) : List (List Char) :=
  let parts := Name.segments path
  (List.range parts.length).map fun count => Name.join (parts.take (count + 1))

/-- Whether a dotted name is allowed, or begins with one that is. -/
def isAllowed (search : ReferenceSearch) (path : List Char) : Bool :=
  (dottedStarts path).any fun start => search.allowed.contains start

/-- Whether a dotted name is a reference. -/
def isReference (search : ReferenceSearch) (path : List Char) : Bool :=
  search.isRooted path && !search.isAllowed path

end ReferenceSearch

/-! ### The dotted names in a statement -/

namespace ExampleCode

/-- The length of what stands at the beginning of a text, and the dotted name that it is. An
attribute of a value and a number are no names, and anything else is one character. -/
def tokenAt (text : List Char) : Nat × Option (List Char) :=
  match text with
  | [] => (1, none)
  | first :: rest =>
    if first = '.' then
      match Name.takePath? (rest.dropWhile isBlank) with
      | some (path, _) => (1 + (rest.takeWhile isBlank).length + path.length, none)
      | none => (1, none)
    else if isDigit first then
      (1 + (rest.takeWhile fun character => isWord character || character == '.').length, none)
    else
      match Name.takePath? text with
      | some (path, _) => (path.length, some path)
      | none => (1, none)

/-- The dotted names in a text; the first `inside` characters belong to something that has been
read. -/
def namesFrom : (inside : Nat) → List Char → List (List Char)
  | _, [] => []
  | inside + 1, _ :: rest => namesFrom inside rest
  | 0, character :: rest =>
    let (length, name) := tokenAt (character :: rest)
    name.toList ++ namesFrom (length - 1) rest

/-- The dotted names in a text that are no attributes of a value. -/
def names (text : List Char) : List (List Char) :=
  namesFrom 0 text

/-- A line without the prompt of an interactive session. -/
def withoutPrompt (line : List Char) : List Char :=
  let bare := line.dropWhile isBlank
  match (after? ['>', '>', '>'] bare).or (after? ['.', '.', '.'] bare) with
  | some [] => []
  | some (' ' :: rest) => rest
  | _ => line

/-- The statements of numbered lines: an import goes on over lines until its parenthesis closes,
and has the number of its first line. `pending` is such an import. -/
def statementsFrom (pending : Option (Nat × List Char)) (number : Nat) :
    List (List Char) → List (Nat × List Char)
  | [] => pending.toList
  | line :: rest =>
    match pending with
    | some (first, text) =>
      let joined := text ++ ' ' :: line
      if joined.contains ')' then (first, joined) :: statementsFrom none (number + 1) rest
      else statementsFrom (some (first, joined)) (number + 1) rest
    | none =>
      if ImportStatement.goesOn line then statementsFrom (some (number, line)) (number + 1) rest
      else (number, line) :: statementsFrom none (number + 1) rest

/-- The numbered lines of a text. -/
def numbered (number : Nat) (lines : List (List Char)) : List (Nat × List Char) :=
  (List.range lines.length).zipWith (fun index line => (number + index, line)) lines

/-- The statements of a code block, each with the line on which it begins. -/
def statements (search : ReferenceSearch) (block : CodeBlock) : List (Nat × List Char) :=
  let code := Noise.sanitize block.code.toList search.language
  let lines := splitAt '\n' code
  if search.followsImports then
    statementsFrom none block.firstCodeLine (lines.map withoutPrompt)
  else numbered block.firstCodeLine lines

end ExampleCode

/-! ### References -/

/-- The state of collecting references: what names are bound to, the latest binding first, and the
references so far. -/
structure ReferenceReading where
  bindings : List (List Char × List Char)
  references : Array Reference
deriving Repr

namespace ReferenceReading

/-- The dotted name that a name stands for where it is used. -/
def qualify (bindings : List (List Char × List Char)) (path : List Char) : List Char :=
  match bindings.lookup (path.takeWhile (· != '.')) with
  | none => path
  | some target => target ++ path.dropWhile (· != '.')

/-- Adds a reference unless it has been found on the same line. -/
def add (reading : ReferenceReading) (path : List Char) (line : Nat) (kind : SectionKind) :
    ReferenceReading :=
  let text := String.ofList path
  if reading.references.any fun known => known.text == text && known.line == line then reading
  else { reading with references := reading.references.push ⟨text, line, kind⟩ }

/-- Adds those of some dotted names that are references. -/
def addAll (search : ReferenceSearch) (reading : ReferenceReading) (paths : List (List Char))
    (line : Nat) (kind : SectionKind) : ReferenceReading :=
  (paths.filter search.isReference).foldl (fun reading path => reading.add path line kind) reading

/-- Reads one statement. -/
def readStatement (search : ReferenceSearch) (kind : SectionKind) (reading : ReferenceReading)
    (statement : Nat × List Char) : ReferenceReading :=
  let (line, text) := statement
  let found? := if search.followsImports then ImportStatement.ofText? text else none
  match found? with
  | some found =>
    let bound := { reading with bindings := found.bindings.reverse ++ reading.bindings }
    bound.addAll search found.imported line kind
  | none =>
    reading.addAll search ((ExampleCode.names text).map (qualify reading.bindings)) line kind

/-- Reads a code block, if it is in the language of the search. -/
def readBlock (search : ReferenceSearch) (kind : SectionKind) (reading : ReferenceReading)
    (block : CodeBlock) : ReferenceReading :=
  if Language.canonical block.language = some search.language then
    (ExampleCode.statements search block).foldl (readStatement search kind) reading
  else reading

/-- Reads the code blocks of a section other than the frontmatter. -/
def readSection (search : ReferenceSearch) (reading : ReferenceReading) (part : Section) :
    ReferenceReading :=
  if part.kind = .frontmatter then reading
  else part.codeBlocks.foldl (readBlock search part.kind) reading

end ReferenceReading

/-- The references that the example code of some sections makes, in order, each once for a line. -/
def ReferenceSearch.references (search : ReferenceSearch) (sections : List Section) :
    List Reference :=
  (sections.foldl (ReferenceReading.readSection search) ⟨[], #[]⟩).references.toList

end LlmTxt

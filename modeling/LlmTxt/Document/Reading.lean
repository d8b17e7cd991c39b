/-
This file reads a document from its text. The frontmatter comes first, if the
first line is a line of dashes, and must be closed before a heading outside fenced
code. The other lines are then read one after the other. A fence begins code,
inside which nothing is structure, up to the fence that closes it. A heading
either begins a top-level section, or gives the document its title, or belongs to
the section around it. Lines before the first section belong to none.
-/

import LlmTxt.Document

namespace LlmTxt

open Text

/-! ### The frontmatter -/

/-- Where the frontmatter ends: the lines inside it and its closing line, with the lines behind;
or the heading that comes before a closing line; or nowhere. -/
inductive FrontmatterEnd where
  | closed (body : List Line) (closing : Nat) (rest : List Line)
  | heading (line : Nat)
  | missing
deriving DecidableEq, Repr

/-- The fence that is open after a line, given the one that is open before it. -/
def fenceAfter (fence : Option Fence) (line : List Char) : Option Fence :=
  match fence, Fence.ofLine? line with
  | some opener, some candidate => if candidate.closes opener then none else some opener
  | some opener, none => some opener
  | none, candidate => candidate

/-- Looks for the end of the frontmatter in the lines behind its first one. -/
def frontmatterEnd (fence : Option Fence) : List Line → FrontmatterEnd
  | [] => .missing
  | line :: rest =>
    let next := fenceAfter fence line.characters
    let goOn :=
      match frontmatterEnd next rest with
      | .closed body closing rest => FrontmatterEnd.closed (line :: body) closing rest
      | other => other
    if fence.isSome || next.isSome then goOn
    else if Frontmatter.isDelimiter line.characters then .closed [] line.number rest
    else if (Heading.ofLine? line.characters).isSome then .heading line.number
    else goOn

/-- The section that stands for the frontmatter among the sections. -/
def frontmatterSection (body : List Line) (closing : Nat) : Section where
  kind := .frontmatter
  title := "Frontmatter"
  level := 1
  moduleName := none
  span := ⟨1, closing, some 0⟩
  lines := body.map fun line => ⟨line.number, String.ofList line.characters, false⟩
  headings := []
  codeBlocks := []

/-! ### The body -/

/-- A section that is being read. -/
structure OpenSection where
  kind : SectionKind
  title : String
  level : Nat
  line : Nat
  offset : Nat
  moduleName : Option String
  lines : Array SourceLine
  headings : Array Heading
  codeBlocks : Array CodeBlock
deriving Repr

namespace OpenSection

/-- The last line of a section: that of its last line that is not blank, or of its heading. -/
def lastLine (part : OpenSection) : Nat :=
  part.lines.foldl (fun last line => if line.isBlank then last else line.number) part.line

/-- The section that has been read. -/
def close (part : OpenSection) : Section where
  kind := part.kind
  title := part.title
  level := part.level
  moduleName := part.moduleName
  span := ⟨part.line, part.lastLine, some part.offset⟩
  lines := part.lines.toList
  headings := part.headings.toList
  codeBlocks := part.codeBlocks.toList

end OpenSection

/-- A code block that is being read. -/
structure OpenCode where
  fence : Fence
  line : Nat
  offset : Nat
  code : Array String
deriving Repr

/-- The code block that ends on a line. -/
def OpenCode.close (block : OpenCode) (last : Nat) : CodeBlock where
  language := block.fence.language.map String.ofList
  code := "\n".intercalate block.code.toList
  span := ⟨block.line, last, some block.offset⟩

/-- The state of reading the body of a document. -/
structure Reading where
  title : Option String
  sections : Array Section
  current : Option OpenSection
  code : Option OpenCode
deriving Repr

/-- The module that a heading names by the word that declares one, if it does. -/
def moduleOf? (title : List Char) : Option (List Char) :=
  let bare := trimBy (fun character => character == '*' || character == '_') (trim title)
  match afterFolded? "module".toList bare with
  | none => none
  | some rest =>
    match rest.dropWhile isBlank with
    | ':' :: name => some (name.dropWhile isBlank)
    | _ => none

/-- The name of a module without decoration. -/
def cleanModuleName (name : List Char) : List Char :=
  trim (trimBy SectionKind.isDecoration (trim name))

namespace Reading

/-- The beginning of the body, behind the sections that are there already. -/
def start (sections : Array Section) : Reading :=
  ⟨none, sections, none, none⟩

/-- Whether a section of the third level may declare a module here. -/
def inModules (reading : Reading) : Bool :=
  match reading.current with
  | some part => part.kind == .moduleSections || part.kind == .moduleSection
  | none => false

/-- The section that a heading begins: its kind, and its module if it is a module section. -/
def classify (reading : Reading) (level : Nat) (title : List Char) :
    Option (SectionKind × Option String) :=
  let declared := (moduleOf? title).map fun name => String.ofList (cleanModuleName name)
  if level = 2 then
    match declared with
    | some name => some (.moduleSection, some name)
    | none => some (SectionKind.ofTitle title, none)
  else if level = 3 && reading.inModules then
    declared.map fun name => (.moduleSection, some name)
  else if level = 1 && (reading.title.isSome || reading.current.isSome) then some (.unknown, none)
  else none

/-- Adds a body line to the current section. -/
def append (reading : Reading) (line : Line) (inCode : Bool) : Reading :=
  { reading with
    current := reading.current.map fun part =>
      { part with lines := part.lines.push ⟨line.number, String.ofList line.characters, inCode⟩ } }

/-- Ends the current section. -/
def closeSection (reading : Reading) : Reading :=
  match reading.current with
  | none => reading
  | some part => { reading with sections := reading.sections.push part.close, current := none }

/-- Begins a section at a heading. -/
def openSection (reading : Reading) (line : Line) (level : Nat) (title : List Char)
    (kind : SectionKind) (moduleName : Option String) : Reading :=
  { reading.closeSection with
    current := some {
      kind := kind
      title := String.ofList title
      level := level
      line := line.number
      offset := line.offset
      moduleName := moduleName
      lines := #[]
      headings := #[]
      codeBlocks := #[] } }

/-- Reads a line inside fenced code. -/
def readCode (reading : Reading) (block : OpenCode) (line : Line) : Reading :=
  let appended := reading.append line true
  if (fenceAfter (some block.fence) line.characters).isSome then
    { appended with
      code := some { block with code := block.code.push (String.ofList line.characters) } }
  else
    { appended with
      code := none
      current := appended.current.map fun part =>
        { part with codeBlocks := part.codeBlocks.push (block.close line.number) } }

/-- Reads a heading that begins no section. -/
def readInnerHeading (reading : Reading) (line : Line) (level : Nat) (title : List Char) :
    Reading :=
  if level = 1 && reading.title.isNone && reading.current.isNone then
    { reading with title := some (String.ofList title) }
  else
    let noted : Reading := { reading with
      current := reading.current.map fun part =>
        { part with headings := part.headings.push ⟨level, String.ofList title, line.number⟩ } }
    noted.append line false

/-- Reads a line outside fenced code. -/
def readProse (reading : Reading) (line : Line) : Reading :=
  match Fence.ofLine? line.characters with
  | some fence => { reading.append line true with code := some ⟨fence, line.number, line.offset, #[]⟩ }
  | none =>
    match Heading.ofLine? line.characters with
    | none => reading.append line false
    | some (level, title) =>
      match reading.classify level title with
      | some (kind, moduleName) => reading.openSection line level title kind moduleName
      | none => reading.readInnerHeading line level title

/-- Reads one line. -/
def readLine (reading : Reading) (line : Line) : Reading :=
  match reading.code with
  | some block => reading.readCode block line
  | none => reading.readProse line

/-- Reads lines in order. -/
def readLines (reading : Reading) (lines : List Line) : Reading :=
  lines.foldl readLine reading

end Reading

/-! ### The whole document -/

namespace Document

/-- Reads the lines behind the frontmatter, if there is one. -/
def readBody (frontmatter : Option Frontmatter) (sections : Array Section) (lines : List Line)
    (lineCount : Nat) : Except FatalDefect Document :=
  let reading := (Reading.start sections).readLines lines
  match reading.code with
  | some block =>
    .error (.unclosedCode block.line block.offset lineCount (reading.current.map (·.kind)))
  | none =>
    .ok {
      frontmatter := frontmatter
      title := reading.title
      sections := reading.closeSection.sections.toList
      diagnostics := []
      lineCount := lineCount }

/-- Reads the lines of a document. -/
def ofLines (lines : List Line) : Except Yaml.Failure (Except FatalDefect Document) := do
  let lineCount := lines.length
  match lines with
  | [] => return readBody none #[] [] 0
  | first :: rest =>
    if Frontmatter.isDelimiter first.characters then
      match frontmatterEnd none rest with
      | .heading line => return .error (.headingInFrontmatter line)
      | .missing => return .error (.unclosedFrontmatter lineCount)
      | .closed body closing behind =>
        let frontmatter ← Frontmatter.ofLines body closing
        return readBody (some frontmatter) #[frontmatterSection body closing] behind lineCount
    else return readBody none #[] lines lineCount

/-- The document that holds nothing but the diagnostic of a fatal defect. -/
def ofDefect (defect : FatalDefect) (lineCount : Nat) : Document where
  frontmatter := none
  title := none
  sections := []
  diagnostics := [defect.diagnostic]
  lineCount := lineCount

/-- Reads a document from its text, together with the fatal defect that has stopped the reading,
if there is one. -/
def ofText (text : String) : Except Yaml.Failure (Document × Option FatalDefect) := do
  let lines := (Source.ofString text).lines
  match (← ofLines lines) with
  | .ok document => return (document, none)
  | .error defect => return (ofDefect defect lines.length, some defect)

end Document

end LlmTxt

/-
This file reads the outline of an Index from the lines of its section. The first
list item sets the indentation of the modules; whatever is indented further belongs
to the module before it. The first item under a module sets the indentation of its
categories, and nothing may be indented further than those. Text that is no list
item goes on with the category before it, if it is indented.
-/

import LlmTxt.Outline.Bullet
import LlmTxt.Section

namespace LlmTxt

open Text

/-- The state of reading an outline. -/
structure OutlineReading where
  /-- The modules that have been read, the current one last. -/
  modules : Array OutlineModule
  problems : Array OutlineProblem
  /-- The indentation of the modules, once a list item has been read. -/
  base : Option Nat
  /-- The indentation of the categories of the current module, once one has been read. -/
  categoryIndent : Option Nat
  /-- Whether the last module of `modules` takes the categories that follow. -/
  inModule : Bool
  /-- Whether the last category of the current module takes the text that follows. -/
  inCategory : Bool
  /-- Whether the line before was code. -/
  inCode : Bool

namespace OutlineReading

/-- The beginning of an outline. -/
def start : OutlineReading :=
  ⟨#[], #[], none, none, false, false, false⟩

/-- Notes a problem. -/
def note (reading : OutlineReading) (line : Nat) (fault : OutlineFault) : OutlineReading :=
  { reading with problems := reading.problems.push ⟨line, fault⟩ }

/-- Changes the current module. -/
def modifyModule (reading : OutlineReading) (change : OutlineModule → OutlineModule) :
    OutlineReading :=
  { reading with modules := reading.modules.modify (reading.modules.size - 1) change }

/-- The same categories with more symbols in the last one. -/
def addToLast (tokens : List OutlineToken) : List OutlineCategory → List OutlineCategory
  | [] => []
  | [last] => [{ last with tokens := last.tokens ++ tokens }]
  | first :: rest => first :: addToLast tokens rest

/-- Reads the symbols of the current category. -/
def readTokens (reading : OutlineReading) (line : Nat) (text : List Char) : OutlineReading :=
  let (tokens, problems) := OutlineToken.listed text line
  let noted := { reading with problems := reading.problems ++ problems.toArray }
  noted.modifyModule fun module =>
    { module with categories := addToLast tokens module.categories }

/-- Reads a list item that names a module. -/
def readModule (reading : OutlineReading) (line : Nat) (content : List Char) : OutlineReading :=
  let left := { reading with inCategory := false, categoryIndent := none }
  match Bullet.moduleName? content with
  | none =>
    { left with inModule := false }.note line (.moduleWithoutName (String.ofList content))
  | some (characters, formatted) =>
    let name := String.ofList characters
    let noted := if formatted then left else left.note line (.plainModuleName name)
    { noted with inModule := true, modules := noted.modules.push ⟨name, line, formatted, []⟩ }

/-- Reads the category that a list item under a module begins. -/
def readCategory (reading : OutlineReading) (line : Nat) (content : List Char) : OutlineReading :=
  match Bullet.category? content with
  | none =>
    { reading with inCategory := false }.note line (.malformedCategory (String.ofList content))
  | some (found, rest) =>
    let label := trim found
    match Bullet.categoryKind? label with
    | none =>
      { reading with inCategory := false }.note line (.unknownCategory (String.ofList label))
    | some kind =>
      let opened := reading.modifyModule fun module =>
        { module with categories :=
            module.categories ++ [⟨String.ofList label, kind, line, []⟩] }
      { opened with inCategory := true }.readTokens line rest

/-- Reads a list item under a module. -/
def readInner (reading : OutlineReading) (line : Nat) (bullet : Bullet) : OutlineReading :=
  if !reading.inModule then reading.note line .categoryWithoutModule
  else
    match reading.categoryIndent with
    | none => { reading with categoryIndent := some bullet.indent }.readCategory line bullet.content
    | some indent =>
      if indent < bullet.indent then reading.note line .tooDeep
      else reading.readCategory line bullet.content

/-- Reads a list item. -/
def readBullet (reading : OutlineReading) (line : Nat) (bullet : Bullet) : OutlineReading :=
  let base := reading.base.getD bullet.indent
  let based := { reading with base := some base }
  if bullet.indent ≤ base then based.readModule line bullet.content
  else based.readInner line bullet

/-- Reads a line that is no list item and not blank. -/
def readText (reading : OutlineReading) (line : Nat) (text : List Char) : OutlineReading :=
  match reading.base with
  | none => reading
  | some base =>
    if base < proseIndent text then
      if reading.inCategory then reading.readTokens line (trim text) else reading
    else reading.note line (.unexpectedText (String.ofList (trim text)))

/-- Reads a line of code, which is a problem at the beginning of the code. -/
def readCode (reading : OutlineReading) (line : Nat) : OutlineReading :=
  if reading.inCode then reading else { reading.note line .codeBlock with inCode := true }

/-- Reads one line. -/
def readLine (reading : OutlineReading) (line : SourceLine) : OutlineReading :=
  if line.inCode then reading.readCode line.number
  else
    let outside := { reading with inCode := false }
    if line.isBlank then outside
    else
      match Bullet.ofLine? line.text.toList with
      | some bullet => outside.readBullet line.number bullet
      | none => outside.readText line.number line.text.toList

end OutlineReading

namespace Outline

/-- The problems that show when the whole Index has been read: modules without categories, or no
module at all, which is a problem of the heading. -/
def closingProblems (modules : List OutlineModule) (headingLine : Nat) : List OutlineProblem :=
  let empty := modules.filter (·.categories.isEmpty)
  (empty.map fun module => ⟨module.line, .moduleWithoutCategories module.name⟩) ++
    if modules.isEmpty then [⟨headingLine, .noModule⟩] else []

/-- The outline of an Index. -/
def ofSection (index : Section) : Outline :=
  let reading := index.lines.foldl OutlineReading.readLine .start
  let modules := reading.modules.toList
  ⟨modules, reading.problems.toList ++ closingProblems modules index.span.first⟩

end Outline

end LlmTxt

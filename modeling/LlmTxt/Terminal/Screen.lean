/-
This file prints texts, tables and panels on a console. Nothing is printed of texts if the
markup of one of them is broken or what is shown of one cannot be encoded.
-/

import LlmTxt.Terminal.Markup
import LlmTxt.Terminal.Table

namespace LlmTxt.Terminal

/-- Lines with a line feed behind each. -/
def ended (lines : List (List Char)) : List Char :=
  lines.flatMap fun line => line ++ ['\n']

/-- A text with markup, as it is printed on a console. -/
def printText (console : Console) (text : String) : Printout := do
  let marked ← Markup.read console text.toList
  if console.width = 0 then return []
  let shown ← marked.shown console console.width
  console.written (ended (layOut ⟨console.width, true, .fold, .none⟩ shown))

/-- A table, as it is printed on a console; its cells may hold markup, which is not read where they
have no place. -/
def printTable (console : Console) (fixed : List Column) (last : Column)
    (rows : List (List String)) : Printout := do
  let read ← rows.mapM fun row => row.mapM fun cell =>
    if console.width < fixed.length + 5 then pure ⟨[], [], []⟩ else Markup.read console cell.toList
  let widths := (⟨fixed, last, read.map fun row => row.map (·.plain)⟩ : Table).widths console.width
  let plainRows ← read.mapM fun row => (row.zip widths).mapM fun (cell, width) =>
    if width < 3 then pure cell.plain else cell.shown console (width - 2)
  console.written (ended ((⟨fixed, last, plainRows⟩ : Table).lines console.width))

/-- A frame with round corners around some lines that are laid into some width, with a space on each
side. There are none where the spaces leave no place. -/
def framed (width : Nat) (lines : List (List Char)) : List (List Char) :=
  let edge := List.replicate width '─'
  let shown := if width < 3 then []
    else lines.flatMap (layOut ⟨width - 2, true, .fold, .none⟩)
  ('╭' :: edge ++ ['╮']) ::
    shown.map (fun line => ['│', ' '] ++ padRight (width - 2) line ++ [' ', '│']) ++
    ['╰' :: edge ++ ['╯']]

/-- A frame around some lines on a console of some width, as wide as the widest of the lines if there
is room. It is cut where not even its edges have room. -/
def panelLines (room : Nat) (lines : List (List Char)) : List (List Char) :=
  let width := Table.askedWidth (room - 2) ((lines.map places).foldl max 0 + 2)
  if width + 2 ≤ room then framed width lines else (framed width lines).map (List.take room)

/-- A panel around lines without markup, as it is printed on a console. -/
def printPanel (console : Console) (lines : List String) : Printout :=
  console.written (ended (panelLines console.width (lines.map String.toList)))

/-- What printouts show, one after the other. -/
def showAll (printouts : List Printout) : Printout :=
  (printouts.mapM id).map List.flatten

end LlmTxt.Terminal

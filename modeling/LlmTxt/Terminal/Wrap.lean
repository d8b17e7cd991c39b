/-
This file lays a text into a column of some width. The lines of the text are laid out one
by one. A tab reaches to the next multiple of eight. A line that is too long is broken
between words, if it may be; a word that is too long for the column is broken as well or
cut off with an ellipsis.
-/

import LlmTxt.Source
import LlmTxt.Terminal.Width
import LlmTxt.Text.Blank

namespace LlmTxt.Terminal

open Text

/-- What happens to a word that is too long for its column. -/
inductive Overflow where
  | fold
  | ellipsis
deriving DecidableEq, Repr

/-- On which side a column adds spaces. -/
inductive Alignment where
  | none
  | left
  | right
deriving DecidableEq, Repr

/-- How a text is laid into a column. -/
structure Layout where
  width : Nat
  wraps : Bool
  overflow : Overflow
  alignment : Alignment
deriving DecidableEq, Repr

/-! ### The width of a text -/

/-- The places of the longest line of a text. -/
def widest (text : List Char) : Nat :=
  ((rawLines text).map fun line => places line.content).foldl max 0

/-! ### Tabs -/

/-- The parts of a line with tabs between them, from a column on. -/
def joinTabbed (column : Nat) : List (List Char) → List Char
  | [] => []
  | [part] => part
  | part :: rest =>
    let stop := column + places (part ++ [' '])
    let gap := (8 - stop % 8) % 8
    part ++ ' ' :: List.replicate gap ' ' ++ joinTabbed (stop + gap) rest

/-- A line with spaces for its tabs. -/
def expandTabs (line : List Char) : List Char :=
  joinTabbed 0 (splitAt '\t' line)

/-! ### Lines -/

/-- Where the reading of a word stands: before it, in it, or behind it. -/
inductive WordPart where
  | before
  | inside
  | behind
deriving DecidableEq, Repr

/-- The words of a line, each with the white space behind it and the first with that before it.
`pending` is the word that is being read, last character first. -/
def spacedWordsFrom (part : WordPart) (pending : List Char) : List Char → List (List Char)
  | [] => if part = .before then [] else [pending.reverse]
  | character :: rest =>
    if isBlank character then
      spacedWordsFrom (if part = .before then .before else .behind) (character :: pending) rest
    else if part = .behind then pending.reverse :: spacedWordsFrom .inside [character] rest
    else spacedWordsFrom .inside (character :: pending) rest

/-- The words of a line with the white space around them. -/
def spacedWords (line : List Char) : List (List Char) :=
  spacedWordsFrom .before [] line

/-- Breaks a word into parts that fit the width. `used` counts the places of the part that is being
read, and `pending` is that part. A last part without places is left out. -/
def foldWord (width used : Nat) (pending : List Char) : List Cluster → List (List Char)
  | [] => if used = 0 then [] else [pending]
  | cluster :: rest =>
    if width < used + cluster.width then
      pending :: foldWord width cluster.width cluster.text rest
    else foldWord width (used + cluster.width) (pending ++ cluster.text) rest

/-- The lines that are full, and the line that words are being added to, with its places. -/
structure Filling where
  full : List (List Char)
  line : List Char
  used : Nat
deriving DecidableEq, Repr

namespace Filling

/-- Nothing yet. -/
def empty : Filling := ⟨[], [], 0⟩

/-- The lines before a word that begins a new one. -/
def closed (filling : Filling) : List (List Char) :=
  if filling.line.isEmpty then filling.full else filling.full ++ [filling.line]

/-- Adds a word to the line, or to a new line where it does not fit. Where the first character of a
word is too wide, an empty line stands before it, but none at the very beginning. -/
def add (layout : Layout) (filling : Filling) (word : List Char) : Filling :=
  let size := places (dropRightWhile isBlank word)
  let newLine : Filling := ⟨filling.closed, word, places word⟩
  if filling.used + size ≤ layout.width then
    { filling with line := filling.line ++ word, used := filling.used + places word }
  else if layout.width < size then
    match layout.overflow with
    | .ellipsis => newLine
    | .fold =>
      let parts := foldWord layout.width 0 [] (clusters word)
      let last := parts.getLastD []
      ⟨(filling.closed ++ parts.dropLast).dropWhile List.isEmpty, last, places last⟩
  else if filling.used = 0 then { filling with line := filling.line ++ word }
  else newLine

end Filling

/-- Breaks a line between its words. -/
def breakLine (layout : Layout) (line : List Char) : List (List Char) :=
  match spacedWords line with
  | [] => [line]
  | words => (words.foldl (Filling.add layout) Filling.empty).closed

/-- A line without as much white space at its end as is too much. -/
def dropExcess (width : Nat) (line : List Char) : List Char :=
  let blanks := (line.reverse.takeWhile isBlank).length
  line.take (line.length - min blanks (line.length - width))

/-- A line that is cut where it is too long. -/
def truncate (layout : Layout) (line : List Char) : List Char :=
  if places line ≤ layout.width then line
  else
    match layout.overflow with
    | .fold => fit layout.width line
    | .ellipsis => fit (layout.width - 1) line ++ ['…']

/-- A line on its side of the column. -/
def align (layout : Layout) (line : List Char) : List Char :=
  match layout.alignment with
  | .none => line
  | .left => padRight layout.width (truncate layout line)
  | .right => padLeft layout.width (truncate layout (dropRightWhile isBlank line))

/-- The lines of a text in a column. -/
def layOut (layout : Layout) (text : List Char) : List (List Char) :=
  (splitAt '\n' text).flatMap fun written =>
    let line := expandTabs written
    let parts := if layout.wraps then breakLine layout line else [line]
    parts.map fun part => truncate layout (align layout (dropExcess layout.width part))

end LlmTxt.Terminal

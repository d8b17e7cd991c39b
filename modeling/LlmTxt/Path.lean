/-
This file holds paths in a file system: where they begin, and the names on the way.
Slashes in a row count as one, a slash at the end and a lone dot count for nothing, and
two dots are kept, because what they lead to depends on the file system unless links are
none of its parts. Two slashes at the beginning are kept as well, because a file system
may give them a meaning; here they lead to the root.
-/

import LlmTxt.Text.Blank

namespace LlmTxt

open Text

/-- Where a path begins. -/
inductive PathStart where
  | current
  | root
  /-- The root, spelled with two slashes. -/
  | doubleRoot
deriving DecidableEq, Repr

namespace PathStart

/-- The slashes with which a path begins. -/
def text : PathStart → String
  | current => ""
  | root => "/"
  | doubleRoot => "//"

/-- Where the path begins that a text spells. -/
def ofText : List Char → PathStart
  | '/' :: '/' :: '/' :: _ => root
  | '/' :: '/' :: _ => doubleRoot
  | '/' :: _ => root
  | _ => current

end PathStart

/-- A path in a file system. -/
structure Path where
  start : PathStart
  parts : List String
deriving DecidableEq, Repr

namespace Path

/-- Whether a path leads to the same place from everywhere. -/
def isAbsolute (path : Path) : Bool :=
  path.start != .current

/-- The name that leads to the directory around. -/
def up : String := ".."

/-- The path that a text spells. -/
def ofText (text : String) : Path where
  start := .ofText text.toList
  parts := ((splitAt '/' text.toList).map String.ofList).filter fun part =>
    !part.isEmpty && part != "."

/-- Whether a path holds a null character, which no path may hold. -/
def holdsNull (path : Path) : Bool :=
  path.parts.any fun part => part.toList.contains '\x00'

/-- A path as text. -/
def text (path : Path) : String :=
  let text := path.start.text ++ "/".intercalate path.parts
  if text.isEmpty then "." else text

/-- Follows names from a directory without looking at the file system; two dots take the name
before them back. -/
def follow (directory : List String) (parts : List String) : List String :=
  parts.foldl (fun known part => if part == up then known.dropLast else known ++ [part]) directory

/-- The names that a path leads to from the directory `current`. -/
def resolve (current : List String) (path : Path) : List String :=
  follow (if path.isAbsolute then [] else current) path.parts

/-- Whether a path may stand before another when paths are sorted: name by name, and a path before
those that go on from it. -/
def sortsBefore : List String → List String → Bool
  | [], _ => true
  | _ :: _, [] => false
  | first :: rest, second :: others =>
    if first = second then sortsBefore rest others else decide (first ≤ second)

/-- The text of the absolute path of some names. -/
def absoluteText (parts : List String) : String :=
  (⟨.root, parts⟩ : Path).text

end Path

end LlmTxt

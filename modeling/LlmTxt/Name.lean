/-
This file holds the dotted names of modules and symbols: identifiers that begin
with an ASCII letter or an underscore, go on with word characters, and are joined
by single dots. Reading takes the longest dotted name at the beginning of a text.
-/

import LlmTxt.Text.Blank
import LlmTxt.Text.Case
import LlmTxt.Text.Word

namespace LlmTxt.Name

open Text

/-- What belongs to a dotted name after its first character, and what is left. `begins` says
which characters may begin an identifier. -/
def pathTail (begins : Char → Bool) : List Char → List Char × List Char
  | [] => ([], [])
  | [character] => if isWord character then ([character], []) else ([], [character])
  | character :: next :: rest =>
    if isWord character then
      let (tail, left) := pathTail begins (next :: rest)
      (character :: tail, left)
    else if character = '.' && begins next then
      let (tail, left) := pathTail begins rest
      (character :: next :: tail, left)
    else ([], character :: next :: rest)

/-- The longest dotted name that a text begins with, and what is left. -/
def takePathBy (begins : Char → Bool) : List Char → Option (List Char × List Char)
  | [] => none
  | character :: rest =>
    if begins character then
      let (tail, left) := pathTail begins rest
      some (character :: tail, left)
    else none

/-- The longest dotted name that a text begins with, and what is left. -/
def takePath? (text : List Char) : Option (List Char × List Char) :=
  takePathBy isNameStart text

/-- The longest identifier that a text begins with, and what is left. -/
def takeIdentifier? : List Char → Option (List Char × List Char)
  | [] => none
  | character :: rest =>
    if isNameStart character then some (character :: rest.takeWhile isWord, rest.dropWhile isWord)
    else none

/-- Whether a text is one dotted name. -/
def isPath (text : List Char) : Bool :=
  match takePath? text with
  | some (_, []) => true
  | _ => false

/-- The dotted names that a text begins with, longest first, each with what is left. A part of a
dotted name is itself one unless it ends in a dot. -/
def pathsOf (text : List Char) : List (List Char × List Char) :=
  match takePath? text with
  | none => []
  | some (path, left) =>
    ((List.range path.length).map fun dropped =>
      let size := path.length - dropped
      (path.take size, path.drop size ++ left)).filter fun candidate =>
        candidate.1.getLast? != some '.'

/-- The identifiers of a dotted name. -/
def segments (path : List Char) : List (List Char) :=
  splitAt '.' path

/-- The dotted name of some identifiers. -/
def join (parts : List (List Char)) : List Char :=
  ['.'].intercalate parts

end LlmTxt.Name

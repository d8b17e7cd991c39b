/-
This file recognises the lines that open and close fenced code. A fence is a run
of at least three backticks or tildes, indented by at most three spaces, and what
follows it is the info text, which holds no backtick. A fence closes an open one
when it is of the same character, at least as long, and says nothing.
-/

import LlmTxt.Text.Blank
import LlmTxt.Text.Case

namespace LlmTxt

open Text

/-- A line that is a fence: its character, how often it is repeated, and the info text. -/
structure Fence where
  marker : Char
  count : Nat
  info : List Char
deriving DecidableEq, Repr

/-- What is left of a line after an indentation of at most three spaces. -/
def dropIndent (line : List Char) : List Char :=
  line.drop (min 3 (line.takeWhile (· == ' ')).length)

namespace Fence

/-- The characters of which fences are made. -/
def isMarker (character : Char) : Bool :=
  character == '\x60' || character == '~'

/-- The fence that a line is, if it is one. -/
def ofLine? (line : List Char) : Option Fence :=
  match dropIndent line with
  | [] => none
  | marker :: rest =>
    if isMarker marker then
      let run := rest.takeWhile (· == marker)
      let info := trimBy isGap (rest.drop run.length)
      if 2 ≤ run.length && !info.contains '\x60' then some ⟨marker, run.length + 1, info⟩ else none
    else none

/-- Whether a fence closes the fence `opener`. -/
def closes (fence opener : Fence) : Bool :=
  fence.marker == opener.marker && opener.count ≤ fence.count && isAllBlank fence.info

/-- The language that a fence declares: the first word of its info text, in small letters. -/
def language (fence : Fence) : Option (List Char) :=
  (words fence.info).head?.map lower

end Fence

end LlmTxt

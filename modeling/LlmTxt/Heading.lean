/-
This file recognises headings: up to three spaces, one to six number signs, a gap,
the text, and perhaps a closing run of number signs after another gap. A run of
number signs that no gap sets apart belongs to the text.
-/

import LlmTxt.Fence

namespace LlmTxt

open Text

/-- A heading of a document, outside fenced code. -/
structure Heading where
  level : Nat
  text : String
  line : Nat
deriving DecidableEq, Repr

namespace Heading

/-- The text of a heading without the gap at its end and without a closing run of number signs
that a gap sets apart. -/
def withoutClosing (content : List Char) : List Char :=
  let bare := dropRightWhile isGap content
  let opened := dropRightWhile (· == '#') bare
  let text := dropRightWhile isGap opened
  if opened.length < bare.length && text.length < opened.length && !text.isEmpty then text else bare

/-- The level and the text of the heading that a line is, if it is one. The text is on one line:
a line feed at the very end does not count, and one before it does. -/
def ofLine? (line : List Char) : Option (Nat × List Char) :=
  let indented := dropIndent line
  let level := (indented.takeWhile (· == '#')).length
  let rest := indented.drop level
  let gap := (rest.takeWhile isGap).length
  let ended := rest.drop gap
  let content := if ended.getLast? = some '\n' then ended.dropLast else ended
  if level = 0 || 6 < level || gap = 0 || content.contains '\n' then none
  else if content.isEmpty then if 2 ≤ gap then some (level, []) else none
  else some (level, trim (withoutClosing content))

end Heading

end LlmTxt

/-
This file holds the white space of the Unicode standard and what is done with
it: dropping it from the ends of a text, and cutting a text into words at it.
Trimming by an arbitrary class is here as well, because decorations around a
title are dropped in the same way.
-/

namespace LlmTxt.Text

/-- The white space of the Unicode standard together with the four information separators. -/
def isBlank (character : Char) : Bool :=
  let point := character.toNat
  (9 ≤ point && point ≤ 13) || (28 ≤ point && point ≤ 32) || point == 0x85 || point == 0xA0 ||
    point == 0x1680 || (0x2000 ≤ point && point ≤ 0x200A) || point == 0x2028 || point == 0x2029 ||
    point == 0x202F || point == 0x205F || point == 0x3000

/-- A space or a tab, the only white space that Markdown counts inside a line. -/
def isGap (character : Char) : Bool :=
  character == ' ' || character == '\t'

/-- Drops the longest run of characters of a class at the end. -/
def dropRightWhile (inClass : Char → Bool) (characters : List Char) : List Char :=
  (characters.reverse.dropWhile inClass).reverse

/-- Drops the longest runs of characters of a class at both ends. -/
def trimBy (inClass : Char → Bool) (characters : List Char) : List Char :=
  dropRightWhile inClass (characters.dropWhile inClass)

/-- Drops white space at both ends. -/
def trim (characters : List Char) : List Char :=
  trimBy isBlank characters

/-- Whether nothing but white space is there. -/
def isAllBlank (characters : List Char) : Bool :=
  characters.all isBlank

/-- The words of a text: its longest runs without white space, in order. `pending` is the word
that is being read, last character first. -/
def wordsFrom (pending : List Char) : List Char → List (List Char)
  | [] => if pending.isEmpty then [] else [pending.reverse]
  | character :: rest =>
    if isBlank character then
      if pending.isEmpty then wordsFrom [] rest else pending.reverse :: wordsFrom [] rest
    else wordsFrom (character :: pending) rest

/-- The words of a text: its longest runs without white space, in order. -/
def words (characters : List Char) : List (List Char) :=
  wordsFrom [] characters

/-- Writes `replacement` for every longest run of characters of a class. `inRun` says that the
character before was of the class. -/
def collapseFrom (inClass : Char → Bool) (replacement : Char) (inRun : Bool) :
    List Char → List Char
  | [] => []
  | character :: rest =>
    if inClass character then
      if inRun then collapseFrom inClass replacement true rest
      else replacement :: collapseFrom inClass replacement true rest
    else character :: collapseFrom inClass replacement false rest

/-- Writes `replacement` for every longest run of characters of a class. -/
def collapse (inClass : Char → Bool) (replacement : Char) (characters : List Char) : List Char :=
  collapseFrom inClass replacement false characters

/-- Cuts a text at every occurrence of `separator`; there is always at least one piece. -/
def splitAt (separator : Char) : List Char → List (List Char)
  | [] => [[]]
  | character :: rest =>
    if character = separator then [] :: splitAt separator rest
    else
      match splitAt separator rest with
      | [] => [[character]]
      | piece :: more => (character :: piece) :: more

/-- What follows `lead`, if the text begins with it. -/
def after? : (lead text : List Char) → Option (List Char)
  | [], text => some text
  | _ :: _, [] => none
  | expected :: lead, character :: text =>
    if expected = character then after? lead text else none

end LlmTxt.Text

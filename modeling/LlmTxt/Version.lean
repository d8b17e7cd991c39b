/-
This file decides which texts are versions: numbers joined by dots, perhaps with a
letter v before them, then any number of markers such as a release candidate, then
perhaps a build after a dash and a local part after a plus. A marker is a word that
stands alone among letters, with a number behind it and a separator before either.
A separator between two markers may belong to the one or to the other, so reading
follows all the rests that the markers can leave.
-/

import LlmTxt.Text.Blank
import LlmTxt.Text.Case
import LlmTxt.Text.Word

namespace LlmTxt.Version

open Text

/-- The words that mark a version as something before or after a release. -/
def markers : List (List Char) :=
  ["alpha", "beta", "preview", "pre", "post", "dev", "rc", "a", "b", "c"].map String.toList

/-- The characters that may stand before a marker and before its number. -/
def isSeparator (character : Char) : Bool :=
  character == '-' || character == '_' || character == '.'

/-- A letter of ASCII, but for its case. -/
def isLetter (character : Char) : Bool :=
  (fold character).isAlpha

/-- A letter of ASCII, but for its case, or a digit of ASCII. -/
def isLetterOrDigit (character : Char) : Bool :=
  isLetter character || character.isDigit

/-- What is left after runs of a class that are joined by single characters of another class. The
first run is expected at once. -/
def afterRuns (inRun isJoint : Char → Bool) : (fuel : Nat) → List Char → Option (List Char)
  | 0, _ => none
  | fuel + 1, text =>
    if (text.takeWhile inRun).isEmpty then none
    else
      match text.dropWhile inRun with
      | [] => some []
      | joint :: rest =>
        if isJoint joint then
          match afterRuns inRun isJoint fuel rest with
          | some left => some left
          | none => some (joint :: rest)
        else some (joint :: rest)

/-- The rests that the number of a marker can leave: a separator before it may be its own or not. -/
def afterNumber (text : List Char) : List (List Char) :=
  match text with
  | [] => [[]]
  | character :: rest =>
    if isSeparator character then [rest.dropWhile isDigit, text] else [text.dropWhile isDigit]

/-- The rests that one marker can leave. -/
def afterMarker (text : List Char) : List (List Char) :=
  let bare := match text with
    | [] => []
    | character :: rest => if isSeparator character then rest else text
  if markers.contains ((bare.takeWhile isLetter).map fold) then
    afterNumber (bare.dropWhile isLetter)
  else []

/-- The rests that any number of markers can leave, given those that some markers have left. -/
def afterMarkers : (fuel : Nat) → List (List Char) → List (List Char)
  | 0, rests => rests
  | fuel + 1, rests => rests ++ afterMarkers fuel (rests.flatMap afterMarker).eraseDups

/-- What is left after the numbers at the beginning of a version. -/
def afterRelease (text : List Char) : Option (List Char) :=
  let numbers := match text with
    | [] => []
    | character :: rest => if fold character == 'v' then rest else text
  afterRuns isDigit (· == '.') (numbers.length + 1) numbers

/-- What is left after a build, if there is one. -/
def afterBuild : List Char → List Char
  | '-' :: rest => (afterRuns isLetterOrDigit (· == '.') (rest.length + 1) rest).getD ('-' :: rest)
  | text => text

/-- Whether a text is nothing, or a local part. -/
def isLocalPart : List Char → Bool
  | [] => true
  | '+' :: rest =>
    afterRuns isLetterOrDigit (fun joint => joint == '.' || joint == '-') (rest.length + 1) rest ==
      some []
  | _ => false

/-- Whether a text, but for white space around it, is a version. -/
def isValid (version : List Char) : Bool :=
  let text := trim version
  match afterRelease text with
  | none => false
  | some rest =>
    (afterMarkers (rest.length + 1) [rest]).any fun left => isLocalPart (afterBuild left)

end LlmTxt.Version

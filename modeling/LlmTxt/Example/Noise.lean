/-
This file blanks the strings and comments of example code, so that what is written in
them is not taken for code. Everything inside a string or a comment becomes a space,
but line feeds stay, so every other character keeps its line and its column. How
strings are written depends on the language. A string that is not closed is none, and
reading goes on behind its first quote.
-/

import LlmTxt.Language
import LlmTxt.Text.Word

namespace LlmTxt.Noise

open Text

/-! ### Strings -/

/-- A kind of string: the quote around it, whether a backslash takes the character after it along,
and whether it may go over several lines. -/
structure Quote where
  mark : Char
  escapes : Bool
  multiline : Bool
deriving DecidableEq, Repr

/-- How strings are written: their kinds, and whether there are strings between three quotes and
letters before strings. -/
structure StringStyle where
  quotes : List Quote
  tripled : Bool
deriving DecidableEq, Repr

/-- Strings on one line between single or double quotes. -/
def plainQuotes : List Quote :=
  [⟨'"', true, false⟩, ⟨'\'', true, false⟩]

/-- How strings are written in a language, given by its canonical name. -/
def stringStyle : String → StringStyle
  | "python" => ⟨plainQuotes, true⟩
  | "javascript" | "typescript" => ⟨⟨'\x60', true, true⟩ :: plainQuotes, false⟩
  | "go" => ⟨⟨'\x60', false, true⟩ :: plainQuotes, false⟩
  | _ => ⟨plainQuotes, false⟩

/-- How many characters there are up to the end of a string, with its closing quote. A backslash
may not take a line feed along. -/
def closingDistance (quote : Quote) : List Char → Option Nat
  | [] => none
  | character :: rest =>
    if character = quote.mark then some 1
    else if quote.escapes && character = '\\' then
      match rest with
      | [] => none
      | taken :: more =>
        if taken = '\n' then none else (closingDistance quote more).map (· + 2)
    else if !quote.multiline && character = '\n' then none
    else (closingDistance quote rest).map (· + 1)

/-- How many characters there are up to the end of a text and that text. -/
def distanceBehind (ending : List Char) : List Char → Option Nat
  | [] => if ending.isEmpty then some 0 else none
  | character :: rest =>
    if (after? ending (character :: rest)).isSome then some ending.length
    else (distanceBehind ending rest).map (· + 1)

/-- The length of the string between three quotes that a text begins with. -/
def tripledLength (mark : Char) (text : List Char) : Option Nat :=
  let marks := [mark, mark, mark]
  match after? marks text with
  | none => none
  | some inside => (distanceBehind marks inside).map (· + 3)

/-- The length of the string of a kind that a text begins with. -/
def quoteLength (tripled : Bool) (quote : Quote) (text : List Char) : Option Nat :=
  match text with
  | [] => none
  | first :: inside =>
    if first = quote.mark then
      (if tripled then tripledLength quote.mark text else none).or
        ((closingDistance quote inside).map (· + 1))
    else none

/-- The length of the string that a text begins with. -/
def stringLength (style : StringStyle) (text : List Char) : Option Nat :=
  style.quotes.findSome? fun quote => quoteLength style.tripled quote text

/-- The letters that may stand before a string. -/
def isStringLetter (character : Char) : Bool :=
  ['r', 'b', 'u', 'f'].contains character.toLower

/-- The length of the string that a text begins with, with at most two letters before it where the
language has such. These do not belong to the end of a word. -/
def literalLength (style : StringStyle) (previous : Option Char) (text : List Char) : Option Nat :=
  if style.tripled then
    let letters := (text.takeWhile isStringLetter).length
    if (previous.map isWord).getD false || 2 < letters then none
    else (stringLength style (text.drop letters)).map (· + letters)
  else stringLength style text

/-! ### Comments -/

/-- The length of the comment that a text begins with. -/
def commentLength (marks : Language.CommentMarks) (text : List Char) : Option Nat :=
  let block := match marks.block with
    | none => none
    | some (opening, closing) =>
      match after? opening text with
      | none => none
      | some inside => (distanceBehind closing inside).map (· + opening.length)
  block.or <|
    if (after? marks.line text).isSome then some (text.takeWhile (· != '\n')).length else none

/-! ### Blanking -/

/-- How strings and comments are written. -/
structure Marks where
  strings : StringStyle
  comments : Language.CommentMarks
deriving DecidableEq, Repr

/-- How strings and comments are written in a language. Strings go by the name as it is given, and
comments by its canonical form. -/
def marksOf (language : String) : Marks :=
  ⟨stringStyle language, Language.commentMarks (some language)⟩

/-- The length of the string or comment that a text begins with, or zero. -/
def length (marks : Marks) (previous : Option Char) (text : List Char) : Nat :=
  ((literalLength marks.strings previous text).or (commentLength marks.comments text)).getD 0

/-- A character of a string or comment as it is written in its place. -/
def blank (character : Char) : Char :=
  if character = '\n' then '\n' else ' '

/-- Blanks strings and comments; the first `inside` characters belong to one. -/
def blankFrom (marks : Marks) : (previous : Option Char) → (inside : Nat) → List Char → List Char
  | _, _, [] => []
  | _, inside + 1, character :: rest =>
    blank character :: blankFrom marks (some character) inside rest
  | previous, 0, character :: rest =>
    match length marks previous (character :: rest) with
    | 0 => character :: blankFrom marks (some character) 0 rest
    | inside + 1 => blank character :: blankFrom marks (some character) inside rest

/-- Blanks the strings and comments of code in a language. -/
def sanitize (code : List Char) (language : String) : List Char :=
  blankFrom (marksOf language) none 0 code

end LlmTxt.Noise

/-
This file holds the place of reading in a YAML text: what is left, and the mark
that counts characters, lines and columns. At the end of the text the cursor
shows the zero character, which no YAML text holds, so looking ahead needs no
case of its own.
-/

import LlmTxt.Yaml.Failure

namespace LlmTxt.Yaml

/-- A place in a text: the number of characters, of lines, and of characters on the line before
it. -/
structure Mark where
  index : Nat
  line : Nat
  column : Nat
deriving DecidableEq, Repr, Inhabited

/-- The place of reading: what is left of the text, and where that begins. -/
structure Cursor where
  rest : List Char
  mark : Mark
deriving Repr

/-- The characters that end a line of YAML. -/
def isBreak (character : Char) : Bool :=
  character == '\n' || character == '\r' || character == '\x85' || character == '\u2028' ||
    character == '\u2029'

/-- The end of the text or of a line. -/
def isBreakOrEnd (character : Char) : Bool :=
  character == '\x00' || isBreak character

/-- The end of the text or of a line, or a space. -/
def isSpaceOrEnd (character : Char) : Bool :=
  character == ' ' || isBreakOrEnd character

/-- The end of the text or of a line, or a space or a tab. -/
def isBlankOrEnd (character : Char) : Bool :=
  character == '\t' || isSpaceOrEnd character

/-- The characters of anchors, tag handles and directive names. -/
def isWordCharacter (character : Char) : Bool :=
  character.isAlphanum || character == '-' || character == '_'

namespace Cursor

/-- The beginning of a text. -/
def ofText (characters : List Char) : Cursor :=
  ⟨characters, ⟨0, 0, 0⟩⟩

/-- The character at some distance. -/
def peekAt (cursor : Cursor) (distance : Nat) : Char :=
  cursor.rest.getD distance '\x00'

/-- The character at the cursor. -/
def peek (cursor : Cursor) : Char :=
  cursor.peekAt 0

/-- Moves over one character. A carriage return before a line feed ends no line, and a byte order
mark takes no column. -/
def step (cursor : Cursor) : Cursor :=
  match cursor.rest with
  | [] => cursor
  | character :: rest =>
    let mark := cursor.mark
    let endsLine := isBreak character && !(character == '\r' && rest.head? == some '\n')
    if endsLine then ⟨rest, ⟨mark.index + 1, mark.line + 1, 0⟩⟩
    else if character == '\uFEFF' then ⟨rest, { mark with index := mark.index + 1 }⟩
    else ⟨rest, ⟨mark.index + 1, mark.line, mark.column + 1⟩⟩

/-- Moves over some characters. -/
def advance (cursor : Cursor) : Nat → Cursor
  | 0 => cursor
  | count + 1 => cursor.step.advance count

/-- The longest run of characters of a class at the cursor, and the cursor behind it. -/
def takeWhile (cursor : Cursor) (inClass : Char → Bool) : List Char × Cursor :=
  let run := cursor.rest.takeWhile inClass
  (run, cursor.advance run.length)

/-- The cursor behind the longest run of characters of a class. -/
def skipWhile (cursor : Cursor) (inClass : Char → Bool) : Cursor :=
  (cursor.takeWhile inClass).2

/-- The cursor behind spaces. -/
def skipSpaces (cursor : Cursor) : Cursor :=
  cursor.skipWhile (· == ' ')

/-- The cursor at the end of the line. -/
def skipLine (cursor : Cursor) : Cursor :=
  cursor.skipWhile fun character => !isBreakOrEnd character

/-- The line break at the cursor as it counts in a scalar, empty where there is none, and the
cursor behind it. -/
def takeBreak (cursor : Cursor) : List Char × Cursor :=
  match cursor.rest with
  | '\r' :: '\n' :: _ => (['\n'], cursor.advance 2)
  | character :: _ =>
    if character == '\u2028' || character == '\u2029' then ([character], cursor.step)
    else if isBreak character then (['\n'], cursor.step)
    else ([], cursor)
  | [] => ([], cursor)

/-- Whether three equal characters and a blank are at the cursor. -/
def showsThree (cursor : Cursor) (character : Char) : Bool :=
  cursor.peekAt 0 == character && cursor.peekAt 1 == character && cursor.peekAt 2 == character &&
    isBlankOrEnd (cursor.peekAt 3)

/-- Whether a document separator is at the cursor. -/
def atSeparator (cursor : Cursor) : Bool :=
  cursor.showsThree '-' || cursor.showsThree '.'

/-- Fails at the cursor. -/
def fail {Result : Type} (cursor : Cursor) (context : Option Context) (problem : Problem) :
    Except Failure Result :=
  .error (.marked context problem cursor.mark.line)

end Cursor

end LlmTxt.Yaml

/-
This file cuts a document into its numbered lines. A line ends at any of the
line breaks of the Unicode standard, and carriage return with line feed counts as
one. Each line knows the byte offset at which it begins, so a span can be given
its offset without counting again. A byte order mark at the beginning is not part
of the document and has no offset.
-/

import LlmTxt.Text.Blank

namespace LlmTxt

/-- The bytes that a text takes in UTF-8. -/
def utf8Length (characters : List Char) : Nat :=
  characters.foldr (fun character total => character.utf8Size + total) 0

/-- The characters at which a line ends. -/
def isLineBreak (character : Char) : Bool :=
  let point := character.toNat
  (10 ≤ point && point ≤ 13) || (28 ≤ point && point ≤ 30) || point == 0x85 ||
    point == 0x2028 || point == 0x2029

/-- A line as it stands in a text: what it says, and the break that ends it, which is empty for
a last line without one. -/
structure RawLine where
  content : List Char
  ending : List Char
deriving DecidableEq, Repr

/-- The lines of a text with the breaks that end them. -/
def rawLines : List Char → List RawLine
  | [] => []
  | '\r' :: '\n' :: rest => ⟨[], ['\r', '\n']⟩ :: rawLines rest
  | character :: rest =>
    if isLineBreak character then ⟨[], [character]⟩ :: rawLines rest
    else
      match rawLines rest with
      | [] => [⟨[character], []⟩]
      | line :: more => { line with content := character :: line.content } :: more

/-- A line of a document: its number, counted from one, the byte offset at which it begins, and
its characters without the break. -/
structure Line where
  number : Nat
  offset : Nat
  characters : List Char
deriving DecidableEq, Repr

/-- Numbers lines from `number` and counts their offsets from `offset`. -/
def numberLines (number offset : Nat) : List RawLine → List Line
  | [] => []
  | line :: rest =>
    ⟨number, offset, line.content⟩ ::
      numberLines (number + 1) (offset + utf8Length line.content + utf8Length line.ending) rest

/-- The text of a document, without a byte order mark. -/
structure Source where
  characters : List Char

namespace Source

/-- The text of a document; a byte order mark at the beginning is dropped. -/
def ofString (text : String) : Source :=
  match text.toList with
  | '\uFEFF' :: rest => ⟨rest⟩
  | characters => ⟨characters⟩

/-- The numbered lines of a document. -/
def lines (source : Source) : List Line :=
  numberLines 1 0 (rawLines source.characters)

/-- The byte offset at which a line begins; for a number that no line has, the length of the
document. -/
def offsetOf (source : Source) (number : Int) : Nat :=
  match source.lines.find? fun line => (line.number : Int) == number with
  | some line => line.offset
  | none => utf8Length source.characters

end Source

end LlmTxt

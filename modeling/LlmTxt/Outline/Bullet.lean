/-
This file reads what stands in one bullet of an Index: the name of a module, the
label of a category, and the symbols between backticks with what is written around
them.
-/

import LlmTxt.Name
import LlmTxt.Outline

namespace LlmTxt

open Text

/-- A list item: how far its mark is indented, and what it says. -/
structure Bullet where
  indent : Nat
  content : List Char
deriving DecidableEq, Repr

/-- The width of an indentation, in which a tab counts as four spaces. -/
def indentWidth (blanks : List Char) : Nat :=
  blanks.foldr (fun character total => (if character = '\t' then 4 else 1) + total) 0

/-- The indentation of a line that is no list item, which may be of any white space. -/
def proseIndent (line : List Char) : Nat :=
  indentWidth (line.takeWhile isBlank)

namespace Bullet

/-- The list item that a line is, if it is one. -/
def ofLine? (line : List Char) : Option Bullet :=
  match line.dropWhile isGap with
  | mark :: gap :: rest =>
    if (mark == '-' || mark == '*' || mark == '+') && isGap gap then
      some ⟨indentWidth (line.takeWhile isGap), dropRightWhile isBlank (rest.dropWhile isGap)⟩
    else none
  | _ => none

/-! ### The name of a module -/

/-- What follows `lead`, if the text begins with it, and else the text. -/
def skip (lead text : List Char) : List Char :=
  (after? lead text).getD text

/-- The name between two marks, inside which backticks may stand around it. The longest name is
taken that the closing mark can follow. -/
def nameBetween (opening : List Char) (closes : List Char → Bool) (content : List Char) :
    Option (List Char) :=
  match after? opening content with
  | none => none
  | some inside =>
    ((Name.pathsOf (skip ['\x60'] inside)).find? fun candidate =>
      closes candidate.2 || closes (skip ['\x60'] candidate.2)).map (·.1)

/-- The name of a module in bold. -/
def boldName (content : List Char) : Option (List Char) :=
  let closes := fun mark text => (after? mark text).isSome
  (nameBetween ['*', '*'] (closes ['*', '*']) content).or
    (nameBetween ['_', '_'] (closes ['_', '_']) content)

/-- The name of a module written as code. -/
def codedName (content : List Char) : Option (List Char) :=
  match content with
  | '\x60' :: inside =>
    match Name.takePath? inside with
    | some (name, '\x60' :: _) => some name
    | _ => none
  | _ => none

/-- Whether a text ends the label of a link and goes on with its target. -/
def closesLink (text : List Char) : Bool :=
  match skip ['*', '*'] (skip ['\x60'] text) with
  | ']' :: '(' :: target => target.contains ')'
  | _ => false

/-- The name of a module as the label of a link. -/
def linkedName (content : List Char) : Option (List Char) :=
  match content with
  | '[' :: label =>
    match Name.takePath? (skip ['\x60'] (skip ['*', '*'] label)) with
    | some (name, rest) => if closesLink rest then some name else none
    | none => none
  | _ => none

/-- The name of the module that a list item begins with, and whether it is formatted. -/
def moduleName? (content : List Char) : Option (List Char × Bool) :=
  match ((boldName content).or (codedName content)).or (linkedName content) with
  | some name => some (name, true)
  | none => (Name.takePath? content).map fun found => (found.1, false)

/-! ### The label of a category -/

/-- Marks of emphasis around a label. -/
def isEmphasis (character : Char) : Bool :=
  character == '*' || character == '_'

/-- What follows the colon behind a label, if nothing but emphasis and white space stands before
it. -/
def afterColon? (text : List Char) : Option (List Char) :=
  match (text.dropWhile isEmphasis).dropWhile isBlank with
  | ':' :: rest => some ((rest.dropWhile isEmphasis).dropWhile isBlank)
  | _ => none

/-- The shortest label of letters and spaces that a colon can follow, and what follows it. -/
def labelFrom : List Char → Option (List Char × List Char)
  | [] => none
  | character :: rest =>
    if character.isAlpha || character == ' ' then
      match afterColon? rest with
      | some value => some ([character], value)
      | none => (labelFrom rest).map fun found => (character :: found.1, found.2)
    else none

/-- The label of the category that a list item begins, and what follows it. -/
def category? (content : List Char) : Option (List Char × List Char) :=
  match content.dropWhile isEmphasis with
  | [] => none
  | first :: rest => if first.isAlpha then labelFrom (first :: rest) else none

/-- The kind of the symbols in a category with a label. -/
def categoryKind? (label : List Char) : Option SymbolKind :=
  match lowerString (String.ofList label) with
  | "classes" | "class" => some .class_
  | "functions" | "function" => some .function
  | "exceptions" | "exception" => some .exception
  | "methods" | "method" => some .method
  | _ => none

end Bullet

/-! ### Symbols -/

namespace OutlineToken

/-- The texts between backticks, and the text around them. A backtick that no other follows, or
that another follows at once, belongs to the text around. `coded` is the text since the last
backtick that may open one, last character first. -/
def split : (coded : Option (List Char)) → List Char → List (List Char) × List Char
  | none, [] => ([], [])
  | some coded, [] => ([], '\x60' :: coded.reverse)
  | none, character :: rest =>
    if character = '\x60' then split (some []) rest
    else
      let (codes, around) := split none rest
      (codes, character :: around)
  | some coded, character :: rest =>
    if character = '\x60' then
      if coded.isEmpty then
        let (codes, around) := split (some []) rest
        (codes, '\x60' :: around)
      else
        let (codes, around) := split none rest
        (coded.reverse :: codes, around)
    else split (some (character :: coded)) rest

/-- The symbol that a text between backticks names: a dotted name and perhaps a signature. -/
def ofCode? (code : List Char) (line : Nat) : Option OutlineToken :=
  match Name.takePath? (code.dropWhile isBlank) with
  | none => none
  | some (name, rest) =>
    let signature := trim rest
    some ⟨String.ofList name,
      if signature.isEmpty then none else some (String.ofList signature), line⟩

/-- The texts that say that a category is empty. -/
def emptyMarks : List String :=
  ["none", "n/a", "-", "—", "–"]

/-- The text around the symbols without commas and the like, or nothing if it only says that there
are none. -/
def leftover? (around : List Char) : Option (List Char) :=
  let isFiller := fun character => character == ',' || character == ';' || isBlank character
  let text := trim (collapse isFiller ' ' around)
  if text.isEmpty || emptyMarks.contains (lowerString (String.ofList text)) then none else some text

/-- The symbols that a text lists, and what is wrong with it. -/
def listed (text : List Char) (line : Nat) : List OutlineToken × List OutlineProblem :=
  let (codes, around) := split none text
  let badNames := (codes.filter fun code => (ofCode? code line).isNone).map fun code =>
    ⟨line, .badSymbolName (String.ofList code)⟩
  let uncoded := match leftover? around with
    | some left => [⟨line, .uncodedText (String.ofList left)⟩]
    | none => []
  (codes.filterMap (ofCode? · line), badNames ++ uncoded)

end OutlineToken

end LlmTxt

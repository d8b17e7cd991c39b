/-
This file drops markup from a text. A tag is a name in brackets that begins with a small
letter, a number sign or an at sign, or, with a slash before the name, the end of what the
tag of that name began; a slash alone ends what was begun last. A backslash before a tag
makes it plain, and two backslashes stand for one. Colours and attributes do not show on a
plain terminal, so only the text between the tags is left, with emoji for their names. A
tag that ends what nothing began breaks the markup, and so does a handler whose values the
console refuses or a colour without its numbers.
-/

import LlmTxt.Terminal.Console
import LlmTxt.Terminal.Shortcode
import LlmTxt.Terminal.Style
import LlmTxt.Text.Blank
import LlmTxt.Text.Word

namespace LlmTxt.Terminal

open Text

/-- What stands in the brackets of a tag: a name and, behind an equals sign, what is said of it. -/
structure Tag where
  name : List Char
  said : Option (List Char)
deriving DecidableEq, Repr

/-- A piece of a text with markup. A tag that ends another knows how many characters stand before
it. -/
inductive MarkupPiece where
  | plain (text : List Char)
  | opening (tag : Tag)
  | closing (tag : Tag) (place : Nat)
deriving DecidableEq, Repr

namespace Tag

/-- The tag that a content of brackets makes. -/
def ofContent (content : List Char) : Tag :=
  let name := content.takeWhile (· != '=')
  ⟨name, (content.drop name.length).tail?⟩

/-- A tag as it is written. -/
def written (tag : Tag) : String :=
  String.ofList ('[' :: tag.name ++ ((tag.said.map ('=' :: ·)).getD []) ++ [']'])

/-- Whether a tag names a handler, and no style. -/
def isHandler (tag : Tag) : Bool :=
  tag.name.head? == some '@'

/-- A tag under its normal name. -/
def normal (tag : Tag) : Except PrintFailure Tag :=
  (Style.normalName tag.name).map fun name => { tag with name }

/-- The values in what is said of a handler: those in parentheses behind its name, or else all. -/
def handlerValues (said : List Char) : List Char :=
  let rest := said.dropWhile fun character => isWord character || character == '.'
  match rest with
  | [] => "()".toList
  | '(' :: more => if more.getLast? = some ')' && !rest.contains '\n' then rest else said
  | _ => said

/-- The fault of a tag that names a handler, on a console. Nothing at all is no fault. -/
def handlerFailure? (console : Console) (tag : Tag) : Option PrintFailure :=
  let said := tag.said.getD []
  if !tag.isHandler || said.isEmpty then none
  else
    let values := handlerValues (trim said)
    (console.refusal? values).map fun refusal =>
      .handler ⟨String.ofList said, String.ofList values, refusal⟩

/-- The fault of a tag that names a style and says more of it. -/
def styleFailure? (tag : Tag) : Option PrintFailure :=
  match tag.said with
  | some said =>
    match Style.ofText (tag.name ++ ' ' :: said) with
    | .error (.badNumber failure) => if tag.isHandler then none else some failure
    | _ => none
  | none => none

end Tag

namespace Markup

/-! ### Pieces -/

/-- Whether a tag can begin with a character. -/
def beginsTag (character : Char) : Bool :=
  ('a' ≤ character && character ≤ 'z') || character == '#' || character == '/' || character == '@'

/-- What stands in the brackets of a tag, behind the opening one, and what follows the tag. -/
def tag? (text : List Char) : Option (List Char × List Char) :=
  let content := text.takeWhile fun character => character != '[' && character != ']'
  match text.drop content.length with
  | ']' :: rest => if content.head?.any beginsTag then some (content, rest) else none
  | _ => none

/-- The piece that the content of brackets at some place makes. -/
def pieceOfTag (content : List Char) (place : Nat) : MarkupPiece :=
  let tag := Tag.ofContent content
  if tag.name.head? = some '/' then .closing tag place else .opening tag

/-- The pieces of a text, in order, where `place` characters stand before it and the plain text right
before it, last character first, is `run`. Each step takes a character at least. -/
def pieces (place : Nat) (run : List Char) : (fuel : Nat) → List Char → List MarkupPiece
  | 0, _ => [.plain run.reverse]
  | fuel + 1, text =>
    let escapes := text.takeWhile (· == '\\')
    let bracket := place + escapes.length
    match text.drop escapes.length with
    | [] => [.plain (escapes ++ run).reverse]
    | '[' :: rest =>
      match tag? rest with
      | none => pieces (bracket + 1) ('[' :: escapes.drop 1 ++ run) fuel rest
      | some (content, left) =>
        let piece := if escapes.length % 2 = 1 then MarkupPiece.plain ('[' :: content ++ [']'])
          else pieceOfTag content bracket
        .plain run.reverse :: .plain (List.replicate (escapes.length / 2) '\\') :: piece ::
          pieces (bracket + content.length + 2) [] fuel left
    | character :: rest => pieces (bracket + 1) (character :: escapes ++ run) fuel rest

/-! ### Plain text -/

/-- The tag that another ends, among those that are open, the last one first. -/
def ended (begun : List Tag) (closing : Tag) (place : Nat) : Except PrintFailure Tag :=
  let name := trim closing.name.tail
  if name.isEmpty then
    match begun with
    | [] => .error (.nothingOpen place)
    | last :: _ => .ok last
  else do
    let wanted ← ({ closing with name } : Tag).normal
    match begun.find? (·.name == wanted.name) with
    | none => .error (.unopened closing.written place)
    | some found => .ok found

/-- The text of some pieces on a console, and the tags in them. `begun` holds the tags that are open,
the last one first. -/
def textOf (console : Console) (begun : List Tag) :
    List MarkupPiece → Except PrintFailure (List Char × List Tag)
  | [] => .ok ([], [])
  | .plain text :: rest => do
    let (behind, tags) ← textOf console begun rest
    return (Shortcode.replace text ++ behind, tags)
  | .opening written :: rest => do
    let tag ← written.normal
    let (behind, tags) ← textOf console (tag :: begun) rest
    return (behind, tag :: tags)
  | .closing tag place :: rest => do
    let found ← ended begun tag place
    match found.handlerFailure? console with
    | some failure => .error failure
    | none => textOf console (begun.eraseP (·.name == found.name)) rest

/-- The control characters that never reach a terminal. -/
def isDropped (character : Char) : Bool :=
  let point := character.toNat
  point == 7 || point == 8 || (11 ≤ point && point ≤ 13)

end Markup

/-- A text with markup that was read: how it is written, what is left without the markup, and the tags
in it. -/
structure MarkedText where
  written : List Char
  plain : List Char
  tags : List Tag
deriving DecidableEq, Repr

/-- A text whose markup is read on a console. -/
def Markup.read (console : Console) (written : List Char) : Except PrintFailure MarkedText := do
  let (plain, tags) ← textOf console [] (pieces 0 [] (written.length + 1) written)
  return ⟨written, plain.filter fun character => !isDropped character, tags⟩

/-- A text that is shown with its tags, where it is laid into lines of some width. -/
def MarkedText.shown (text : MarkedText) (console : Console) (width : Nat) :
    Except PrintFailure (List Char) :=
  match text.tags.findSome? Tag.styleFailure? with
  | some failure =>
    if console.overlooks text.written width then .ok text.plain else .error failure
  | none => .ok text.plain

end LlmTxt.Terminal

/-
This file reads the headings that declare objects: a word that says the kind, a
dotted name, and perhaps a signature in parentheses. Letter case does not matter in
the word, and backticks do not matter at all. A word may be one of the four but for
a letter beyond ASCII; such a heading has the form of a declaration and declares no
kind, which is a failure and not a heading outside the grammar.
-/

import LlmTxt.Name
import LlmTxt.Symbol.Kind
import LlmTxt.Text.Quoted

namespace LlmTxt

open Text

/-- What a heading declares. -/
structure ObjectHeader where
  kind : SymbolKind
  name : String
  signature : Option String
deriving DecidableEq, Repr

/-- A heading has the form of a declaration, and its word, in small letters, names no kind. -/
structure UnknownWord where
  word : String
deriving DecidableEq, Repr

namespace ObjectHeader

/-- The words that say a kind, each with the kind and whether a colon may follow it. -/
def words : List (List Char × SymbolKind × Bool) := [
  ("class".toList, .class_, false),
  ("exception".toList, .exception, false),
  ("function".toList, .function, true),
  ("method".toList, .method, true)]

/-- What follows a word of a declaration: a colon, if one may stand there, or white space. -/
def afterWord? (colon : Bool) (text : List Char) : Option (List Char) :=
  let bare := text.dropWhile isBlank
  match bare with
  | ':' :: rest => if colon then some (rest.dropWhile isBlank) else none
  | _ => if bare.length < text.length then some bare else none

/-- The word of a declaration as it is written, its kind, and what follows. -/
def word? (text : List Char) : Option (List Char × SymbolKind × List Char) :=
  words.findSome? fun entry =>
    match afterFolded? entry.1 text with
    | none => none
    | some rest =>
      (afterWord? entry.2.2 rest).map fun left => (text.take entry.1.length, entry.2.1, left)

/-- Whether a character may begin an identifier in a declaration. -/
def beginsName (character : Char) : Bool :=
  (fold character).isAlpha || character == '_'

/-- The signature behind a name: none where nothing follows, and otherwise one line that begins
with a parenthesis. -/
def signature? : List Char → Option (Option String)
  | [] => some none
  | '(' :: rest =>
    if rest.contains '\n' then none else some (some (String.ofList (trim ('(' :: rest))))
  | _ => none

/-- A heading without backticks and without white space at its ends. -/
def bare (heading : List Char) : List Char :=
  trim (heading.filter (· != '\x60'))

/-- The declaration that a heading makes, if it follows the grammar. -/
def ofHeading? (heading : List Char) : Except UnknownWord (Option ObjectHeader) :=
  match word? (bare heading) with
  | none => .ok none
  | some (written, kind, rest) =>
    match Name.takePathBy beginsName rest with
    | none => .ok none
    | some (name, left) =>
      match signature? (left.dropWhile isBlank) with
      | none => .ok none
      | some signature =>
        let word := lower written
        if words.any fun entry => entry.1 == word then
          .ok (some ⟨kind, String.ofList name, signature⟩)
        else .error ⟨String.ofList word⟩

/-- The name before the first parenthesis that has one, in a text. -/
def calledName? : List Char → Option (List Char)
  | [] => none
  | character :: rest =>
    match Name.takePath? (character :: rest) with
    | some (name, left) =>
      match left.dropWhile isBlank with
      | '(' :: _ => some name
      | _ => calledName? rest
    | none => calledName? rest

/-- The name under which a heading outside the grammar is recorded: the name that it seems to
call, or its whole text. -/
def fallbackName (heading : List Char) : List Char :=
  (calledName? (bare heading)).getD (bare heading)

end ObjectHeader

/-- The wording of the failure: the word in quotes. -/
def UnknownWord.message (failure : UnknownWord) : String :=
  quotedString failure.word

end LlmTxt

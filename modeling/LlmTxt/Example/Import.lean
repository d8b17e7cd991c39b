/-
This file reads the import statements of example code. One form takes names out of a
module, and the other takes modules as they are; in both a name may be bound to
another one. What cannot be read in a list of names is passed over.
-/

import LlmTxt.Name

namespace LlmTxt

open Text

/-- A dotted name in an import statement, with the name that it is bound to, if one is given. -/
structure ImportItem where
  name : List Char
  bound : Option (List Char)
deriving DecidableEq, Repr

/-- An import statement. -/
inductive ImportStatement where
  | ofNames (module : List Char) (items : List ImportItem)
  | ofModules (items : List ImportItem)
deriving DecidableEq, Repr

namespace ImportItem

/-- What follows white space, of which there has to be some. -/
def afterBlanks? : List Char → Option (List Char)
  | [] => none
  | character :: rest => if isBlank character then some (rest.dropWhile isBlank) else none

/-- What follows a word with white space before it. -/
def afterBlankWord? (word : String) (text : List Char) : Option (List Char) :=
  (afterBlanks? text).bind (after? word.toList)

/-- The item that a text is, if it is one. -/
def ofText? (text : List Char) : Option ImportItem :=
  match Name.takePath? (trim text) with
  | none => none
  | some (name, []) => some ⟨name, none⟩
  | some (name, rest) =>
    match ((afterBlankWord? "as" rest).bind afterBlanks?).bind Name.takeIdentifier? with
    | some (bound, []) => some ⟨name, some bound⟩
    | _ => none

/-- The items in a list with commas between them. -/
def listOf (text : List Char) : List ImportItem :=
  (splitAt ',' text).filterMap ofText?

end ImportItem

namespace ImportStatement

/-- The module that a statement takes names out of, and the list of the names. -/
def namesOf? (statement : List Char) : Option (List Char × List Char) :=
  match ((after? "from".toList (statement.dropWhile isBlank)).bind
      ImportItem.afterBlanks?).bind Name.takePath? with
  | none => none
  | some (module, rest) =>
    ((ImportItem.afterBlankWord? "import" rest).bind ImportItem.afterBlanks?).map fun names =>
      (module, names)

/-- The list of the modules that a statement takes as they are. -/
def modulesOf? (statement : List Char) : Option (List Char) :=
  (after? "import".toList (statement.dropWhile isBlank)).bind ImportItem.afterBlanks?

/-- Parentheses count as white space in a list of names. -/
def withoutParentheses (names : List Char) : List Char :=
  names.map fun character => if character = '(' || character = ')' then ' ' else character

/-- The import statement that a line is, if it is one. -/
def ofText? (statement : List Char) : Option ImportStatement :=
  match namesOf? statement with
  | some (module, names) => some (.ofNames module (ImportItem.listOf (withoutParentheses names)))
  | none => (modulesOf? statement).map fun modules => .ofModules (ImportItem.listOf modules)

/-- Whether a line begins a statement whose list of names goes on until a parenthesis closes. -/
def goesOn (line : List Char) : Bool :=
  (namesOf? line).isSome && line.contains '(' && !line.contains ')'

/-- The dotted names that a statement imports. -/
def imported : ImportStatement → List (List Char)
  | ofNames module items => items.map fun item => module ++ '.' :: item.name
  | ofModules items => items.map (·.name)

/-- The names that a statement binds, each with the dotted name that it stands for, in order. A
module that is taken as it is binds nothing but its alias. -/
def bindings : ImportStatement → List (List Char × List Char)
  | ofNames module items =>
    items.map fun item => (item.bound.getD item.name, module ++ '.' :: item.name)
  | ofModules items => items.filterMap fun item => item.bound.map fun other => (other, item.name)

end ImportStatement

end LlmTxt

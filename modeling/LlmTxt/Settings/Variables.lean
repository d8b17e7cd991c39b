/-
This file reads files of variables, one to a line: a name, an equals sign and a value,
which may be quoted and then go on over lines. A line that does not follow this form is
passed over. A value may cite other variables, with a default for those that have no
value. What the environment holds already is not touched, and a variable that no
environment can hold is refused.
-/

import LlmTxt.Text.Blank
import LlmTxt.Yaml.Value

namespace LlmTxt

open Text

/-- The variables of an environment. -/
abbrev Environment := List (String × String)

/-- A variable in a file, with its value as it is written, if it has one. -/
structure VariableLine where
  name : String
  value : Option (List Char)
deriving DecidableEq, Repr

namespace VariableLine

/-! ### The parts of a line -/

/-- White space within a line. -/
def isSpace (character : Char) : Bool :=
  isBlank character && character != '\n' && character != '\r'

/-- What belongs to the same line. -/
def inLine (character : Char) : Bool :=
  character != '\n' && character != '\r'

/-- What follows the word that may stand before a name. -/
def afterExport (text : List Char) : List Char :=
  match after? "export".toList text with
  | some (first :: rest) => if isSpace first then rest.dropWhile isSpace else text
  | _ => text

/-- The text up to a quote that ends it, and what follows. A backslash takes the character behind it
along, so a quote there does not end the text. -/
def untilQuote? (quote : Char) : List Char → Option (List Char × List Char)
  | [] => none
  | '\\' :: next :: rest =>
    (untilQuote? quote rest).map fun found => ('\\' :: next :: found.1, found.2)
  | first :: rest =>
    if first = quote then some ([], rest)
    else (untilQuote? quote rest).map fun found => (first :: found.1, found.2)

/-- The character that a letter behind a backslash stands for between double quotes. -/
def escaped? : Char → Option Char
  | '\\' => some '\\'
  | '\'' => some '\''
  | '"' => some '"'
  | 'a' => some '\x07'
  | 'b' => some '\x08'
  | 'f' => some '\x0c'
  | 'n' => some '\n'
  | 'r' => some '\r'
  | 't' => some '\t'
  | 'v' => some '\x0b'
  | _ => none

/-- A quoted text with its escapes replaced. Between single quotes only the backslash and the
quote can be escaped. -/
def unescape (double : Bool) : List Char → List Char
  | '\\' :: next :: rest =>
    match escaped? next with
    | some character =>
      if double || next = '\\' || next = '\'' then character :: unescape double rest
      else '\\' :: unescape double (next :: rest)
    | none => '\\' :: unescape double (next :: rest)
  | first :: rest => first :: unescape double rest
  | [] => []

/-- A text up to white space before a number sign. -/
def withoutRemark : List Char → List Char
  | [] => []
  | first :: rest =>
    if isBlank first && (rest.dropWhile isBlank).head? = some '#' then []
    else first :: withoutRemark rest

/-- The name at the beginning of a line and what follows; no name where a remark begins. -/
def takeName? (text : List Char) : Option (Option (List Char) × List Char) :=
  match text with
  | '#' :: _ => some (none, text)
  | '\'' :: rest =>
    let name := rest.takeWhile (· != '\'')
    match rest.drop name.length with
    | '\'' :: left => if name.isEmpty then none else some (some name, left)
    | _ => none
  | _ =>
    let isPart := fun character => character != '=' && character != '#' && !isBlank character
    let name := text.takeWhile isPart
    if name.isEmpty then none else some (some name, text.drop name.length)

/-- The value behind an equals sign and what follows. White space before a value belongs to the white
space that makes a remark. -/
def takeValue? (text : List Char) : Option (List Char × List Char) :=
  match text.dropWhile isSpace with
  | '\'' :: rest => (untilQuote? '\'' rest).map fun found => (unescape false found.1, found.2)
  | '"' :: rest => (untilQuote? '"' rest).map fun found => (unescape true found.1, found.2)
  | _ =>
    some (trim (withoutRemark (text.takeWhile inLine)), text.dropWhile inLine)

/-- What follows the end of a line, with a remark before it. -/
def afterEnd? (text : List Char) : Option (List Char) :=
  let bare := text.dropWhile isSpace
  let ended := if bare.head? = some '#' then bare.dropWhile inLine else bare
  match ended with
  | [] => some []
  | '\r' :: '\n' :: rest => some rest
  | first :: rest => if inLine first then none else some rest

/-- What follows the rest of a line. -/
def afterLine (text : List Char) : List Char :=
  (text.dropWhile inLine).drop 1

/-- The value behind a name, if an equals sign is there, and what follows; or the place where it
goes wrong. -/
def valueBehind (text : List Char) : Except (List Char) (Option (List Char) × List Char) :=
  match text.dropWhile isSpace with
  | '=' :: value =>
    match takeValue? value with
    | none => .error value
    | some (found, left) => .ok (some found, left)
  | bare => .ok (none, bare)

/-- What one line holds: the variable on it, if there is one, and what follows; or the place where
it goes wrong. -/
def ofLine (text : List Char) : Except (List Char) (Option VariableLine × List Char) :=
  let begun := afterExport text
  match takeName? begun with
  | none => .error begun
  | some (name, rest) =>
    match valueBehind rest with
    | .error left => .error left
    | .ok (value, left) =>
      match afterEnd? left with
      | none => .error left
      | some next => .ok (name.map fun found => ⟨String.ofList found, value⟩, next)

/-- The variables in a text, in order. Each line takes a character at least. -/
def ofText : (fuel : Nat) → List Char → List VariableLine
  | 0, _ => []
  | fuel + 1, text =>
    match text.dropWhile isBlank with
    | [] => []
    | begun =>
      match ofLine begun with
      | .error left => ofText fuel (afterLine left)
      | .ok (found, next) => found.toList ++ ofText fuel next

end VariableLine

namespace Environment

/-! ### Citations -/

/-- The variable that is cited behind a dollar sign and a brace, its default, and what follows. -/
def citation? (text : List Char) : Option (List Char × List Char × List Char) :=
  let isPart := fun character => character != '\x7d' && character != ':'
  let name := text.takeWhile isPart
  match text.drop name.length with
  | '\x7d' :: rest => some (name, [], rest)
  | ':' :: '-' :: rest =>
    let default := rest.takeWhile (· != '\x7d')
    match rest.drop default.length with
    | '\x7d' :: left => some (name, default, left)
    | _ => none
  | _ => none

/-- The names of the variables that a text cites. -/
def citedNames : List Char → List String
  | [] => []
  | '$' :: '\x7b' :: rest =>
    (citation? rest).toList.map (fun found => String.ofList found.1) ++ citedNames rest
  | _ :: rest => citedNames rest

/-- A text with the values of the variables that it cites. -/
def expand (value? : String → Option String) : (fuel : Nat) → List Char → List Char
  | 0, text => text
  | fuel + 1, text =>
    match text with
    | [] => []
    | '$' :: '\x7b' :: rest =>
      match citation? rest with
      | some (name, default, left) =>
        ((value? (String.ofList name)).map String.toList).getD default ++ expand value? fuel left
      | none => '$' :: expand value? fuel ('\x7b' :: rest)
    | first :: rest => first :: expand value? fuel rest

/-- The variables of a file with the values of those that they cite: the environment counts before
the file, and in the file what comes earlier. A variable without a value counts as empty where it
is cited. -/
def resolved (environment : Environment) (lines : List VariableLine) :
    List (String × Option String) :=
  lines.foldl (fun known line =>
    let value? := fun name =>
      (environment.lookup name).or ((known.lookup name).map fun found => found.getD "")
    insertKey line.name (line.value.map fun text =>
      String.ofList (expand value? (text.length + 1) text)) known) []

/-- Why an environment does not take a variable. -/
inductive Refusal where
  | nullCharacter
  | equalsInName
deriving DecidableEq, Repr

/-- The wording of a refusal. -/
def Refusal.message : Refusal → String
  | nullCharacter => "embedded null byte"
  | equalsInName => "illegal environment variable name"

/-- What keeps a variable out of an environment, where a name ends at an equals sign and a value at
a null character. -/
def refusal? (name value : String) : Option Refusal :=
  if (name ++ value).toList.contains '\x00' then some .nullCharacter
  else if name.toList.contains '=' then some .equalsInName
  else none

/-- An environment with another variable. -/
def add (environment : Environment) (entry : String × String) : Except Refusal Environment :=
  match refusal? entry.1 entry.2 with
  | some refusal => .error refusal
  | none => .ok (environment ++ [entry])

/-- The variables of a file that have a value and that an environment does not hold. -/
def missing (environment : Environment) (text : List Char) : Environment :=
  (environment.resolved (VariableLine.ofText (text.length + 1) text)).filterMap fun entry =>
    if (environment.lookup entry.1).isSome then none
    else entry.2.map fun value => (entry.1, value)

/-- The text of a file without the mark of the order of bytes at its beginning. -/
def unmarked : List Char → List Char
  | '\uFEFF' :: rest => rest
  | text => text

/-- An environment with the variables of a file that it does not hold. -/
def withFile (environment : Environment) (text : List Char) : Except Refusal Environment :=
  (environment.missing (unmarked text)).foldlM add environment

end Environment

end LlmTxt

/-
This file writes JSON. Lists and objects that hold something are spread over lines, two
spaces deeper for each level. In a string the quotation mark, the backslash and the control
characters of ASCII are escaped, and everything else stands as it is.
-/

import LlmTxt.Text.Quoted

namespace LlmTxt

open Text

/-- A value that can be written as JSON. Reports hold no numbers but counts. -/
inductive JsonValue where
  | null
  | truth (value : Bool)
  | count (value : Nat)
  | text (content : String)
  | list (items : List JsonValue)
  | object (fields : List (String × JsonValue))
deriving Repr

namespace JsonValue

/-- A character between quotation marks. -/
def escape (character : Char) : List Char :=
  match character with
  | '"' => ['\\', '"']
  | '\\' => ['\\', '\\']
  | '\n' => ['\\', 'n']
  | '\r' => ['\\', 'r']
  | '\t' => ['\\', 't']
  | '\x08' => ['\\', 'b']
  | '\x0c' => ['\\', 'f']
  | _ =>
    if character.toNat < 32 then '\\' :: 'u' :: hexDigits 4 character.toNat else [character]

/-- A text between quotation marks. -/
def quote (content : String) : List Char :=
  '"' :: content.toList.flatMap escape ++ ['"']

/-- The beginning of a line at some depth. -/
def lineStart (depth : Nat) : List Char :=
  '\n' :: List.replicate (2 * depth) ' '

/-- Parts between brackets, each on a line of its own. -/
def enclose (opening closing : Char) (depth : Nat) (parts : List (List Char)) : List Char :=
  if parts.isEmpty then [opening, closing]
  else
    opening :: [','].intercalate (parts.map (lineStart (depth + 1) ++ ·)) ++
      lineStart depth ++ [closing]

mutual

/-- A value as JSON, at some depth. -/
def write (depth : Nat) : JsonValue → List Char
  | null => "null".toList
  | truth true => "true".toList
  | truth false => "false".toList
  | count value => (toString value).toList
  | text content => quote content
  | list items => enclose '[' ']' depth (writeItems (depth + 1) items)
  | object fields => enclose '\x7b' '\x7d' depth (writeFields (depth + 1) fields)

/-- The items of a list as JSON. -/
def writeItems (depth : Nat) : List JsonValue → List (List Char)
  | [] => []
  | item :: rest => item.write depth :: writeItems depth rest

/-- The fields of an object as JSON. -/
def writeFields (depth : Nat) : List (String × JsonValue) → List (List Char)
  | [] => []
  | (name, value) :: rest =>
    (quote name ++ [':', ' '] ++ value.write depth) :: writeFields depth rest

end

/-- A text as JSON, or null where there is none. -/
def ofText? : Option String → JsonValue
  | none => null
  | some content => text content

end JsonValue

end LlmTxt

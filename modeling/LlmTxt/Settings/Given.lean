/-
This file holds settings as they are given, before they are understood. A list of names
may be given as one text with commas, as a list, or as anything else that holds items;
white space around a name does not count, and neither do items that are nothing. What
holds no items, and an item that is no text, are refused by the type of value that was
found. Whether something holds may be given as a truth value, as zero or one, or as a
word.
-/

import LlmTxt.Text.Blank
import LlmTxt.Text.Case
import LlmTxt.Text.Utf8

namespace LlmTxt

open Text

/-- The types of value in which settings are given. -/
inductive ValueType where
  | null
  | boolean
  | integer
  | float
  | text
  | bytes
  | list
  | pair
  | set
  | mapping
  | date
  | dateTime
deriving DecidableEq, Repr

namespace ValueType

/-- The name by which messages cite a type. -/
def name : ValueType → String
  | null => "NoneType"
  | boolean => "bool"
  | integer => "int"
  | float => "float"
  | text => "str"
  | bytes => "bytes"
  | list => "list"
  | pair => "tuple"
  | set => "set"
  | mapping => "dict"
  | date => "date"
  | dateTime => "datetime"

/-- The name by which messages cite a type where it is refused. -/
def fullName : ValueType → String
  | date => "datetime.date"
  | dateTime => "datetime.datetime"
  | other => other.name

end ValueType

/-- What stands in a list that a setting is given as. -/
inductive GivenItem where
  | text (content : String)
  | bytes (content : List UInt8)
  /-- Null, false, zero, or something empty. -/
  | nothing
  | other (type : ValueType)
deriving DecidableEq, Repr

/-- What a setting is given as. -/
inductive Given where
  | text (content : String)
  | bytes (content : List UInt8)
  /-- A list, a set, or the keys of a mapping. -/
  | items (content : List GivenItem)
  | truth (value : Bool)
  /-- An integer or a float, with what it says if it is zero or one. -/
  | number (type : ValueType) (meaning : Option Bool)
  /-- Something else that holds no items. -/
  | single (type : ValueType)
deriving DecidableEq, Repr

/-- Why a setting is refused. -/
inductive SettingsRefusal where
  /-- A list is given as something that holds no items. -/
  | notList (type : ValueType)
  /-- An item of a list is no text. -/
  | notText (type : ValueType)
  /-- A value has the form of a setting and is none. -/
  | invalid
deriving DecidableEq, Repr

/-- The wording of a refusal. -/
def SettingsRefusal.message : SettingsRefusal → String
  | notList type => "'" ++ type.fullName ++ "' object is not iterable"
  | notText type => "'" ++ type.fullName ++ "' object has no attribute 'strip'"
  | invalid => "Invalid configuration"

/-! ### Names -/

namespace GivenItem

/-- The white space of ASCII. -/
def isBlankByte (byte : UInt8) : Bool :=
  byte == 32 || (9 ≤ byte && byte ≤ 13)

/-- A byte with the small letter for a capital of ASCII. -/
def lowerByte (byte : UInt8) : UInt8 :=
  if 65 ≤ byte && byte ≤ 90 then byte + 32 else byte

/-- Bytes without white space at their ends. -/
def trimBytes (bytes : List UInt8) : List UInt8 :=
  ((bytes.dropWhile isBlankByte).reverse.dropWhile isBlankByte).reverse

/-- The name that bytes spell, if they spell a text. -/
def spelled? (bytes : List UInt8) : Option String :=
  match decodeUtf8 bytes with
  | .ok characters => some (String.ofList characters)
  | .error _ => none

/-- The names of some items, trimmed, and in small letters where `small` says so. Blank items are
passed over, and bytes that spell no text leave a gap. -/
def names (small : Bool) : List GivenItem → Except SettingsRefusal (List (Option String))
  | [] => .ok []
  | .nothing :: rest => names small rest
  | .other type :: _ => .error (.notText type)
  | .text content :: rest => do
    let bare := trim content.toList
    let others ← names small rest
    if bare.isEmpty then return others
    else return some (String.ofList (if small then lower bare else bare)) :: others
  | .bytes content :: rest => do
    let bare := trimBytes content
    let others ← names small rest
    if bare.isEmpty then return others
    else return spelled? (if small then bare.map lowerByte else bare) :: others

/-- The item that a byte is on its own. -/
def ofByte (byte : UInt8) : GivenItem :=
  if byte = 0 then .nothing else .other .integer

end GivenItem

namespace Given

/-- Whether a value counts as nothing at all. -/
def isNothing : Given → Bool
  | text content => content.isEmpty
  | bytes content => content.isEmpty
  | items content => content.isEmpty
  | truth value => !value
  | number _ meaning => meaning == some false
  | single type => type == .null

/-- The items that a value holds one by one. A text holds its characters. -/
def each : Given → Except SettingsRefusal (List GivenItem)
  | text content => .ok (content.toList.map fun character => .text (String.ofList [character]))
  | bytes content => .ok (content.map GivenItem.ofByte)
  | items content => .ok content
  | truth _ => .error (.notList .boolean)
  | number type _ => .error (.notList type)
  | single type => .error (.notList type)

/-- The items of a list, which may be given as a text with commas between them. -/
def listed : Given → Except SettingsRefusal (List GivenItem)
  | text content =>
    .ok ((splitAt ',' content.toList).map fun part => .text (String.ofList part))
  | other => other.each

/-! ### Truth -/

/-- The words that say no and those that say yes. -/
def words : List (String × Bool) := [
  ("0", false), ("off", false), ("f", false), ("false", false), ("n", false), ("no", false),
  ("1", true), ("on", true), ("t", true), ("true", true), ("y", true), ("yes", true)]

/-- What a word says, in letters of ASCII of either case. -/
def truthOfWord? (word : String) : Option Bool :=
  words.lookup (String.ofList (word.toList.map Char.toLower))

/-- What a value says. -/
def truth? : Given → Option Bool
  | text content => truthOfWord? content
  | bytes content => (GivenItem.spelled? content).bind truthOfWord?
  | truth value => some value
  | number _ meaning => meaning
  | items _ => none
  | single _ => none

end Given

end LlmTxt

/-
This file says what the scalars of YAML stand for. A plain scalar without a tag is
judged by its form: it may be nothing, a truth value, a number, a timestamp, or a mark
for merging, and otherwise it is a text. A tag that is written out says what a scalar
is, whatever its form, and then its form may be wrong.
-/

import LlmTxt.Text.Base64
import LlmTxt.Text.Case
import LlmTxt.Text.Number
import LlmTxt.Yaml.Failure
import LlmTxt.Yaml.Timestamp

namespace LlmTxt.Yaml

open Text

/-! ### Tags -/

/-- What a node is said to be, by its tag or by its form. -/
inductive DataTag where
  | null
  | boolean
  | integer
  | float
  | text
  | binary
  | timestamp
  | sequence
  | mapping
  | set
  | orderedMapping
  | pairs
  /-- The key under which other mappings are merged. -/
  | merge
  /-- The key under which a mapping holds its plain value. -/
  | value
  | unknown (name : String)
deriving DecidableEq, Repr

namespace DataTag

/-- How the tags of the standard vocabulary begin. -/
def root : String := "tag:yaml.org,2002:"

/-- The standard vocabulary. -/
def vocabulary : List (String × DataTag) := [
  ("null", null), ("bool", boolean), ("int", integer), ("float", float), ("str", text),
  ("binary", binary), ("timestamp", timestamp), ("seq", sequence), ("map", mapping),
  ("set", set), ("omap", orderedMapping), ("pairs", pairs), ("merge", merge), ("value", value)]

/-- What a tag that is written out stands for. -/
def ofName (name : String) : DataTag :=
  match after? root.toList name.toList with
  | none => unknown name
  | some rest => (vocabulary.lookup (String.ofList rest)).getD (unknown name)

/-- Whether a tag is that of a collection. -/
def isCollection : DataTag → Bool
  | sequence | mapping | set | orderedMapping | pairs => true
  | _ => false

/-- The whole name of a tag. -/
def name : DataTag → String
  | unknown name => name
  | tag => root ++ (((vocabulary.find? fun entry => entry.2 == tag).map (·.1)).getD "")

end DataTag

/-! ### Forms -/

namespace PlainForm

/-- A digit of ASCII or an underscore. -/
def isDigitMark (character : Char) : Bool :=
  character.isDigit || character == '_'

/-- A text without a sign at its beginning. -/
def withoutSign : List Char → List Char
  | [] => []
  | first :: rest => if first = '+' || first = '-' then rest else first :: rest

/-- A text without a line feed at its end, which never counts. -/
def line (text : List Char) : List Char :=
  if text.getLast? = some '\n' then text.dropLast else text

/-- Whether a text is one of some words. -/
def isOneOf (words : List String) (text : List Char) : Bool :=
  words.contains (String.ofList (line text))

/-- Whether a text is nothing. -/
def isNull (text : List Char) : Bool :=
  text.isEmpty || isOneOf ["~", "null", "Null", "NULL"] text

/-- Whether a text is a truth value. -/
def isBoolean (text : List Char) : Bool :=
  isOneOf [
    "yes", "Yes", "YES", "no", "No", "NO", "true", "True", "TRUE", "false", "False", "FALSE",
    "on", "On", "ON", "off", "Off", "OFF"] text

/-- Whether a text is one or more parts below sixty, each behind a colon. -/
def isSixties : (fuel : Nat) → List Char → Bool
  | 0, _ => false
  | fuel + 1, text =>
    match text with
    | ':' :: rest =>
      let digits := rest.takeWhile Char.isDigit
      let left := rest.drop digits.length
      (digits.length = 1 || (digits.length = 2 && (digits.headD '9').toNat < '6'.toNat)) &&
        (left.isEmpty || isSixties fuel left)
    | _ => false

/-- Whether a text is an integer: in base two, eight, ten, sixteen or sixty. -/
def isInteger (text : List Char) : Bool :=
  let bare := withoutSign (line text)
  match bare with
  | [] => false
  | ['0'] => true
  | '0' :: 'b' :: rest =>
    !rest.isEmpty && rest.all fun character => ['0', '1', '_'].contains character
  | '0' :: 'x' :: rest =>
    !rest.isEmpty && rest.all fun character =>
      isDigitMark character || ['a', 'b', 'c', 'd', 'e', 'f'].contains character.toLower
  | '0' :: rest =>
    rest.all fun character => isDigitMark character && character != '8' && character != '9'
  | first :: rest =>
    let left := rest.dropWhile isDigitMark
    first.isDigit && (left.isEmpty || isSixties (left.length + 1) left)

/-- Whether a text is nothing or an exponent with a sign. -/
def isExponent : List Char → Bool
  | [] => true
  | mark :: rest =>
    (mark == 'e' || mark == 'E') &&
      match rest with
      | [] => false
      | sign :: digits =>
        (sign == '+' || sign == '-') && !digits.isEmpty && digits.all Char.isDigit

/-- Whether a text is parts below sixty behind colons, then a point and digits. -/
def isSixtiesWithPoint (text : List Char) : Bool :=
  let whole := text.takeWhile (· != '.')
  match text.drop whole.length with
  | '.' :: rest => isSixties (whole.length + 1) whole && rest.all isDigitMark
  | _ => false

/-- Whether a text is a number with a point, or infinite, or no number at all. -/
def isFloat (text : List Char) : Bool :=
  let given := line text
  let bare := withoutSign given
  let inWords := isOneOf [".nan", ".NaN", ".NAN"] given || isOneOf [".inf", ".Inf", ".INF"] bare
  let withPoint := match bare with
    | [] => false
    | '.' :: rest =>
      bare.length = given.length && (rest.headD '_').isDigit &&
        isExponent (rest.dropWhile isDigitMark)
    | first :: rest =>
      first.isDigit &&
        match rest.dropWhile isDigitMark with
        | '.' :: left => isExponent (left.dropWhile isDigitMark)
        | left => isSixtiesWithPoint left
  inWords || withPoint

/-- Whether a text is a timestamp. -/
def isTimestamp (text : List Char) : Bool :=
  match Timestamp.ofText? text with
  | some timestamp => timestamp.isUntagged
  | none => false

/-- What a plain scalar without a tag is. -/
def tag (text : List Char) : DataTag :=
  if isBoolean text then .boolean
  else if isFloat text then .float
  else if isInteger text then .integer
  else if isOneOf ["<<"] text then .merge
  else if isNull text then .null
  else if isTimestamp text then .timestamp
  else if isOneOf ["="] text then .value
  else .text

end PlainForm

/-! ### Scalars -/

/-- What a scalar stands for. -/
inductive Scalar where
  | null
  | boolean (value : Bool)
  | integer (value : Int)
  | float (value : Float)
  | text (content : String)
  | binary (content : List UInt8)
  | date (value : WrittenDate)
  | dateTime (date : WrittenDate) (time : WrittenTime)
deriving BEq, Repr

/-- What can be wrong with the form of a scalar whose tag says what it is. -/
inductive ScalarFault where
  | unknownTruth (word : String)
  | badInteger (base : Nat) (digits : String)
  | badFloat (digits : String)
  | emptyNumber
  | tooManyDigits (count : Nat)
  | notTimestamp
  /-- A part in base sixty stands for more than the range of floats. -/
  | tooLarge
  /-- A timestamp is written as a mapping with a plain value. -/
  | notText
  | timestamp (fault : TimestampFault)
deriving DecidableEq, Repr

/-- How many characters of an integer in quotes a message shows. -/
def shownDigits : Nat := 200

/-- The wording of a fault. -/
def ScalarFault.message : ScalarFault → String
  | unknownTruth word => quotedString word
  | badInteger base digits =>
    "invalid literal for int() with base " ++ toString base ++ ": " ++
      String.ofList ((quotedString digits).toList.take shownDigits)
  | badFloat digits => "could not convert string to float: " ++ quotedString digits
  | emptyNumber => "string index out of range"
  | tooManyDigits count => (Failure.tooManyDigits count).message
  | notTimestamp => "'NoneType' object has no attribute 'groupdict'"
  | tooLarge => "int too large to convert to float"
  | notText => "expected string or bytes-like object, got 'list'"
  | timestamp fault => fault.message

/-- Why the data of a text cannot be had. -/
inductive DataFailure where
  | text (failure : Failure)
  | scalar (fault : ScalarFault)
deriving DecidableEq, Repr

/-- The wording of a failure. -/
def DataFailure.message : DataFailure → String
  | text failure => failure.message
  | scalar fault => fault.message

namespace Scalar

/-- The letter that may stand behind a zero before the digits of a base. -/
def baseLetter? : Nat → Option Char
  | 2 => some 'b'
  | 8 => some 'o'
  | 16 => some 'x'
  | _ => none

/-- Digits of a base without the zero and the letter that may announce it. -/
def withoutBase (base : Nat) : List Char → List Char
  | zero :: letter :: rest =>
    if digitValue? zero = some 0 && baseLetter? base = some letter.toLower then rest
    else zero :: letter :: rest
  | digits => digits

/-- The integer that a text spells in a base, with white space around it and perhaps a sign. Too many
decimal digits are refused whatever is behind them. -/
def integerOf (base : Nat) (text : List Char) : Except ScalarFault Int :=
  let bare := trimNumber text
  let digits := withoutBase base (PlainForm.withoutSign bare)
  let count := (digits.takeWhile isDigit).length
  if base = 10 && maxDigits < count then .error (.tooManyDigits count)
  else
    match digitsValue? base digits with
    | none => .error (.badInteger base (String.ofList text))
    | some value => .ok (if bare.head? = some '-' then -(value : Int) else value)

/-- The integer that parts spell in base sixty, the greatest part first. -/
def sixtiesOf (parts : List (List Char)) : Except ScalarFault Int := do
  let values ← parts.mapM (integerOf 10)
  return values.foldl (fun total value => total * 60 + value) 0

/-- The integer without its sign that a text spells. -/
def magnitudeOf (text : List Char) : Except ScalarFault Int :=
  match text with
  | [] => .error .emptyNumber
  | ['0'] => .ok 0
  | '0' :: 'b' :: rest => integerOf 2 rest
  | '0' :: 'x' :: rest => integerOf 16 rest
  | '0' :: _ => integerOf 8 text
  | _ => if text.contains ':' then sixtiesOf (splitAt ':' text) else integerOf 10 text

/-- The integer that a scalar spells. Underscores do not count. -/
def integerOfText (text : List Char) : Except ScalarFault Int :=
  let given := text.filter (· != '_')
  if given.isEmpty then .error .emptyNumber
  else
    (magnitudeOf (PlainForm.withoutSign given)).map fun value =>
      if given.head? = some '-' then -value else value

/-- The float that digits with a power of ten spell. Beyond the range of floats it is infinite or
zero. -/
def decimalValue (digits : List Nat) (exponent : Int) : Float :=
  let mantissa := digits.foldl (fun value digit => value * 10 + digit) 0
  let size : Int := exponent + (digits.dropWhile (· == 0)).length
  if mantissa = 0 || size < -400 then 0.0
  else if 400 < size then 1.0 / 0.0
  else Float.ofScientific mantissa (exponent < 0) exponent.natAbs

/-- The power of ten behind a number, if a text is nothing or an exponent. -/
def exponentOf? : List Char → Option Int
  | [] => some 0
  | mark :: rest =>
    if mark = 'e' || mark = 'E' then
      (digitsValue? 10 (PlainForm.withoutSign rest)).map fun value =>
        if rest.head? = some '-' then -(value : Int) else value
    else none

/-- The float without its sign that a text spells with digits. -/
def decimalOf? (text : List Char) : Option Float := do
  let whole := text.takeWhile isDigit
  let left := text.drop whole.length
  let (part, rest) := match left with
    | '.' :: more => (more.takeWhile isDigit, more.dropWhile isDigit)
    | _ => ([], left)
  if whole.isEmpty && part.isEmpty then none
  else
    let exponent ← exponentOf? rest
    return decimalValue ((whole ++ part).filterMap digitValue?) (exponent - part.length)

/-- The float that a text spells, with white space around it and perhaps a sign. -/
def floatOf (text : List Char) : Except ScalarFault Float :=
  let bare := trimNumber text
  let unsigned := PlainForm.withoutSign bare
  let word := String.ofList (unsigned.map Char.toLower)
  let found? := if word == "inf" || word == "infinity" then some (1.0 / 0.0)
    else if word == "nan" then some (0.0 / 0.0)
    else decimalOf? unsigned
  match found? with
  | none => .error (.badFloat (String.ofList text))
  | some value => .ok (if bare.head? = some '-' then -value else value)

/-- The float that parts spell in base sixty, the least part first; `weight` is that of the next
part. -/
def sixtiesFloat (total : Float) (weight : Nat) : List Float → Except ScalarFault Float
  | [] => .ok total
  | part :: rest =>
    let factor := Float.ofNat weight
    if factor.isInf then .error .tooLarge
    else sixtiesFloat (total + part * factor) (weight * 60) rest

/-- The float without its sign that a scalar spells in small letters. -/
def unsignedFloat (text : List Char) : Except ScalarFault Float :=
  if text == ".inf".toList then .ok (1.0 / 0.0)
  else if text == ".nan".toList then .ok (0.0 / 0.0)
  else if text.contains ':' then do
    let parts ← (splitAt ':' text).mapM floatOf
    sixtiesFloat 0.0 1 parts.reverse
  else floatOf text

/-- The float that a scalar spells. Underscores do not count. -/
def floatOfText (text : List Char) : Except ScalarFault Float :=
  let given := lower (text.filter (· != '_'))
  if given.isEmpty then .error .emptyNumber
  else
    (unsignedFloat (PlainForm.withoutSign given)).map fun value =>
      if given.head? = some '-' then -value else value

/-- The truth value that a scalar spells in any case. -/
def booleanOfText (text : List Char) : Except ScalarFault Bool :=
  let word := String.ofList (lower text)
  if ["yes", "true", "on"].contains word then .ok true
  else if ["no", "false", "off"].contains word then .ok false
  else .error (.unknownTruth word)

/-- The date or the date and time that a scalar spells. -/
def timestampOfText (text : List Char) : Except ScalarFault Scalar :=
  match Timestamp.ofText? text with
  | none => .error .notTimestamp
  | some timestamp =>
    match timestamp.fault?, timestamp.time with
    | some fault, _ => .error (.timestamp fault)
    | none, none => .ok (.date timestamp.date)
    | none, some time => .ok (.dateTime timestamp.date time)

/-- How a message cites the characters beyond ASCII at the beginning of a run. -/
def beyondAscii (characters : List Char) : String :=
  let before := characters.takeWhile fun character => character.toNat < 128
  let run := (characters.drop before.length).takeWhile fun character => 128 ≤ character.toNat
  let place := if run.length = 1 then
      let point := codePoint (run.headD ' ')
      let escape := if point < 0x100 then '\\' :: 'x' :: hexDigits 2 point
        else if point < 0x10000 then '\\' :: 'u' :: hexDigits 4 point
        else '\\' :: 'U' :: hexDigits 8 point
      "character '" ++ String.ofList escape ++ "' in position " ++ toString before.length
    else "characters in position " ++ toString before.length ++ "-" ++
      toString (before.length + run.length - 1)
  "'ascii' codec can't encode " ++ place ++ ": ordinal not in range(128)"

/-- The bytes that a scalar on a line holds. -/
def binaryOfText (text : List Char) (line : Nat) : Except DataFailure (List UInt8) :=
  if text.any fun character => 128 ≤ character.toNat then
    .error (.text (.marked none
      (.badBinary ("failed to convert base64 data into ascii: " ++ beyondAscii text)) line))
  else
    match decodeBase64 text with
    | .ok bytes => .ok bytes
    | .error failure =>
      .error (.text (.marked none
        (.badBinary ("failed to decode base64 data: " ++ failure.message)) line))

/-- What a scalar of a tag on a line stands for. -/
def ofText (tag : DataTag) (text : List Char) (line : Nat) : Except DataFailure Scalar :=
  match tag with
  | .null => .ok .null
  | .boolean => ((booleanOfText text).map .boolean).mapError .scalar
  | .integer => ((integerOfText text).map .integer).mapError .scalar
  | .float => ((floatOfText text).map .float).mapError .scalar
  | .timestamp => (timestampOfText text).mapError .scalar
  | .binary => (binaryOfText text line).map .binary
  | .text => .ok (.text (String.ofList text))
  | other => .error (.text (.marked none (.undefinedTag other.name) line))

end Scalar

end LlmTxt.Yaml

/-
This file reads whole numbers. The digits of a number in some base may be of every script,
with white space around them; the information separators are no white space to a number. A
person who writes a number uses the digits of ASCII, perhaps with underscores between them,
zeros before them, and a point and zeros behind them. A number of too many digits is
refused, because reading it takes too long.
-/

import LlmTxt.Text.Blank
import LlmTxt.Text.Word

namespace LlmTxt.Text

/-- The value of a digit in any base up to sixteen. -/
def digitValue? (character : Char) : Option Nat :=
  let point := character.toNat
  if character.isDigit then some (point - 48)
  else if 97 ≤ character.toLower.toNat && character.toLower.toNat ≤ 102 then
    some (character.toLower.toNat - 87)
  else
    (digitRanges.find? fun range => range.1 ≤ point && point ≤ range.2).map fun range =>
      (point - range.1) % 10

/-- The number that digits spell in a base, if all of them are digits of the base. -/
def digitsValue? (base : Nat) (digits : List Char) : Option Nat :=
  if digits.isEmpty then none
  else
    digits.foldl (fun value digit =>
      match value, digitValue? digit with
      | some value, some next => if next < base then some (value * base + next) else none
      | _, _ => none) (some 0)

/-- The longest run of decimal digits that is read. -/
def maxDigits : Nat := 4300

/-- White space that may stand around a number. -/
def isNumberBlank (character : Char) : Bool :=
  isBlank character && !(28 ≤ character.toNat && character.toNat ≤ 31)

/-- A number without the white space around it. -/
def trimNumber (text : List Char) : List Char :=
  trimBy isNumberBlank text

/-! ### Numbers as a person writes them -/

/-- Whether a number can begin with a digit. -/
def isLeadingDigit (character : Char) : Bool :=
  '1' ≤ character && character ≤ '9'

/-- What is left of a number without the zeros and underscores at its beginning, where `last` is the
one before. Of zeros alone, or before a point, the last is left. -/
def dropZeros? (last : Char) : List Char → Option (List Char)
  | [] => some [last]
  | character :: rest =>
    if character = '0' || character = '_' then dropZeros? character rest
    else if character = '.' then some (last :: character :: rest)
    else if isLeadingDigit character then some (character :: rest)
    else none

/-- A number without zeros at its beginning. A minus keeps them. -/
def withoutZeros? : List Char → Option (List Char)
  | [] => none
  | first :: rest =>
    if first = '0' then dropZeros? first rest
    else if first = '-' || isLeadingDigit first then some (first :: rest)
    else none

/-- A number without a point behind which nothing but zeros stands. -/
def withoutPoint (text : List Char) : List Char :=
  let whole := text.takeWhile (· != '.')
  if (text.drop (whole.length + 1)).all (· == '0') then whole else text

/-- A number without the underscores between its digits. -/
def withoutUnderscores? (text : List Char) : Option (List Char) :=
  let groups := splitAt '_' text
  if 1 < groups.length && groups.any List.isEmpty then none else some groups.flatten

/-- The number that digits spell with no more zeros than they need. -/
def plainNumber? (digits : List Char) : Option Nat :=
  if digits == ['0'] || (digits.head?.any isLeadingDigit && digits.all Char.isDigit) then
    digitsValue? 10 digits
  else none

/-- The integer of a number that is written plainly, perhaps with a minus. -/
def plainInteger? (text : List Char) : Option Int :=
  if maxDigits < text.length then none
  else
    match text with
    | '-' :: digits => (plainNumber? digits).map fun value => -(value : Int)
    | digits => (plainNumber? digits).map fun value => (value : Int)

/-- The integer that a person has written. -/
def integer? (text : List Char) : Option Int :=
  let unsigned := match trimNumber text with
    | '+' :: '-' :: _ => []
    | '+' :: rest => rest
    | written => written
  ((withoutZeros? unsigned).bind fun digits => withoutUnderscores? (withoutPoint digits)).bind
    plainInteger?

end LlmTxt.Text

/-
This file holds the quoted form of a text, as messages show a key or a stray
character. The quotes are single unless the text holds a single quote and no
double one. Inside, the quote and the backslash are escaped, and so is every
character that `isShown` refuses: two, four or eight hexadecimal digits say which
it is.
-/

import LlmTxt.Text.Printable
import LlmTxt.Text.Surrogate

namespace LlmTxt.Text

/-- The hexadecimal digit of a value below sixteen. -/
def hexDigit (value : Nat) : Char :=
  if value < 10 then Char.ofNat (48 + value) else Char.ofNat (87 + value)

/-- The last `width` hexadecimal digits of a value. -/
def hexDigits : (width value : Nat) → List Char
  | 0, _ => []
  | width + 1, value => hexDigits width (value / 16) ++ [hexDigit (value % 16)]

/-- A value in hexadecimal with at least `width` digits. -/
def hexAtLeast (width value : Nat) : List Char :=
  let digits := Nat.toDigits 16 value
  List.replicate (width - digits.length) '0' ++ digits

/-- One character between quotes of the given kind. -/
def quoteCharacter (quote character : Char) : List Char :=
  let point := codePoint character
  if character = quote || character = '\\' then ['\\', character]
  else if character = '\n' then ['\\', 'n']
  else if character = '\r' then ['\\', 'r']
  else if character = '\t' then ['\\', 't']
  else if isShown character then [character]
  else if point < 0x100 then '\\' :: 'x' :: hexDigits 2 point
  else if point < 0x10000 then '\\' :: 'u' :: hexDigits 4 point
  else '\\' :: 'U' :: hexDigits 8 point

/-- The quote that a text is shown in. -/
def quoteFor (characters : List Char) : Char :=
  if characters.contains '\'' && !characters.contains '"' then '"' else '\''

/-- A text between quotes, with everything escaped that does not show. -/
def quoted (characters : List Char) : List Char :=
  let quote := quoteFor characters
  quote :: characters.flatMap (quoteCharacter quote) ++ [quote]

/-- A text between quotes, with everything escaped that does not show. -/
def quotedString (text : String) : String :=
  String.ofList (quoted text.toList)

/-! ### Texts that are not encoded -/

/-- The wording of what keeps a text from being encoded. -/
def EncodingFailure.message (failure : EncodingFailure) : String :=
  let place :=
    if failure.more = 0 then
      "character '\\u" ++ String.ofList (hexDigits 4 failure.point) ++ "' in position " ++
        toString failure.place
    else
      "characters in position " ++ toString failure.place ++ "-" ++
        toString (failure.place + failure.more)
  "'utf-8' codec can't encode " ++ place ++ ": surrogates not allowed"

end LlmTxt.Text

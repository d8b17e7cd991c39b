/-
This file writes emoji for their names between colons. A name counts in letters of either
case, and a dash and a word behind it choose the form of the emoji. What is no name of an
emoji is left as it is. The name of an emoji that comes in tones of skin may say the tone.
-/

import LlmTxt.Text.Blank
import LlmTxt.Text.Case
import LlmTxt.Terminal.Shortcode.Names

namespace LlmTxt.Terminal.Shortcode

open Text

/-- The emoji and their names. -/
def entries : List (List Char × List (List Char)) :=
  (written.flatMap fun line => splitAt ';' line.toList).filterMap fun entry =>
    match words entry with
    | emoji :: names => some (emoji, names)
    | [] => none

/-- The emoji of a name as it is written in the table. -/
def emojiOf? (name : List Char) : Option (List Char) :=
  (entries.find? fun entry => entry.2.contains name).map (·.1)

/-- The ends of the names of emoji in a tone of skin, and the characters of the tones. -/
def tones : List (List Char × Char) := [
  ("_light_skin_tone".toList, '🏻'), ("_medium-light_skin_tone".toList, '🏼'),
  ("_medium_skin_tone".toList, '🏽'), ("_medium-dark_skin_tone".toList, '🏾'),
  ("_dark_skin_tone".toList, '🏿')]

/-- An emoji in a tone, which stands behind its first character in the place of a selector. -/
def withTone (tone : Char) : List Char → List Char
  | first :: '\ufe0f' :: rest => first :: tone :: rest
  | first :: rest => first :: tone :: rest
  | [] => []

/-- The emoji of a name in a tone of skin. -/
def tonedEmoji? (name : List Char) : Option (List Char) :=
  tones.findSome? fun (ending, tone) =>
    if ending.isSuffixOf name then
      (emojiOf? (name.take (name.length - ending.length) ++ ['/'])).map (withTone tone)
    else none

/-- The emoji of a name. -/
def emoji? (name : List Char) : Option (List Char) :=
  if name.contains '/' then none
  else ((emojiOf? name).or (emojiOf? (name ++ ['/']))).or (tonedEmoji? name)

/-- The words behind a dash that choose the form of an emoji, and what stands behind the emoji
then. -/
def forms : List (List Char × Char) := [
  ("-emoji".toList, '\ufe0f'), ("-text".toList, '\ufe0e')]

/-- What is written for a code between colons. -/
def replacement? (code : List Char) : Option (List Char) :=
  match forms.find? fun entry => entry.1.isSuffixOf code with
  | some (ending, selector) =>
    (emoji? (lower (code.take (code.length - ending.length)))).map (· ++ [selector])
  | none => emoji? (lower code)

/-- A text with emoji for their names. `open?` is what stands behind a colon that may begin a name,
last character first. -/
def replaceFrom (open? : Option (List Char)) : List Char → List Char
  | [] => (open?.map fun pending => ':' :: pending.reverse).getD []
  | character :: rest =>
    match open? with
    | none =>
      if character = ':' then replaceFrom (some []) rest
      else character :: replaceFrom none rest
    | some pending =>
      if character = ':' then
        (replacement? pending.reverse).getD (':' :: pending.reverse ++ [':']) ++
          replaceFrom none rest
      else if isBlank character then
        ':' :: pending.reverse ++ character :: replaceFrom none rest
      else replaceFrom (some (character :: pending)) rest

/-- A text with emoji for their names. -/
def replace (text : List Char) : List Char :=
  replaceFrom none text

end LlmTxt.Terminal.Shortcode

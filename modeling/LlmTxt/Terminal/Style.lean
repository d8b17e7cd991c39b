/-
This file reads the names of styles: attributes, a colour, a colour behind the text and a
link, in any order and with short names for the attributes. However a style is written, it
has one normal name. A text that names no style is its own normal name, in small letters.
-/

import LlmTxt.Terminal.Console
import LlmTxt.Text.Blank
import LlmTxt.Text.Case
import LlmTxt.Text.Number
import LlmTxt.Text.Word

namespace LlmTxt.Terminal

open Text

/-- Why words name no style. -/
inductive StyleFault where
  | unknown
  /-- One of the three numbers of a colour is none. -/
  | badNumber (failure : PrintFailure)
deriving DecidableEq, Repr

/-- A style of text: the attributes that it sets or takes away, and what else it says. -/
structure Style where
  attributes : List (String × Bool)
  colour : Option String
  background : Option String
  link : Option String
deriving DecidableEq, Repr

namespace Style

/-- The style that says nothing. -/
def none : Style := ⟨[], .none, .none, .none⟩

/-! ### Attributes -/

/-- The attributes of text, in the order in which they are listed, each with its short names. -/
def attributeNames : List (String × List String) := [
  ("bold", ["b"]), ("dim", ["d"]), ("italic", ["i"]), ("underline", ["u"]), ("blink", []),
  ("blink2", []), ("reverse", ["r"]), ("conceal", ["c"]), ("strike", ["s"]),
  ("underline2", ["uu"]), ("frame", []), ("encircle", []), ("overline", ["o"])]

/-- The attribute that a word names. -/
def attribute? (word : String) : Option String :=
  (attributeNames.find? fun entry => entry.1 == word || entry.2.contains word).map (·.1)

/-! ### Colours -/

/-- The names of colours, several on a line with blanks between them. -/
def colourNames : List String := [
  "black red green yellow blue magenta cyan white bright_black bright_red bright_green",
  "bright_yellow bright_blue bright_magenta bright_cyan bright_white grey0 gray0 navy_blue",
  "dark_blue blue3 blue1 dark_green deep_sky_blue4 dodger_blue3 dodger_blue2 green4",
  "spring_green4 turquoise4 deep_sky_blue3 dodger_blue1 green3 spring_green3 dark_cyan",
  "light_sea_green deep_sky_blue2 deep_sky_blue1 spring_green2 cyan3 dark_turquoise turquoise2",
  "green1 spring_green1 medium_spring_green cyan2 cyan1 dark_red deep_pink4 purple4 purple3",
  "blue_violet orange4 grey37 gray37 medium_purple4 slate_blue3 royal_blue1 chartreuse4",
  "dark_sea_green4 pale_turquoise4 steel_blue steel_blue3 cornflower_blue chartreuse3 cadet_blue",
  "sky_blue3 steel_blue1 pale_green3 sea_green3 aquamarine3 medium_turquoise chartreuse2",
  "sea_green2 sea_green1 aquamarine1 dark_slate_gray2 dark_magenta dark_violet purple",
  "light_pink4 plum4 medium_purple3 slate_blue1 yellow4 wheat4 grey53 gray53 light_slate_grey",
  "light_slate_gray medium_purple light_slate_blue dark_olive_green3 dark_sea_green",
  "light_sky_blue3 sky_blue2 dark_sea_green3 dark_slate_gray3 sky_blue1 chartreuse1 light_green",
  "pale_green1 dark_slate_gray1 red3 medium_violet_red magenta3 dark_orange3 indian_red",
  "hot_pink3 medium_orchid3 medium_orchid medium_purple2 dark_goldenrod light_salmon3 rosy_brown",
  "grey63 gray63 medium_purple1 gold3 dark_khaki navajo_white3 grey69 gray69 light_steel_blue3",
  "light_steel_blue yellow3 dark_sea_green2 light_cyan3 light_sky_blue1 green_yellow",
  "dark_olive_green2 dark_sea_green1 pale_turquoise1 deep_pink3 magenta2 hot_pink2 orchid",
  "medium_orchid1 orange3 light_pink3 pink3 plum3 violet light_goldenrod3 tan misty_rose3",
  "thistle3 plum2 khaki3 light_goldenrod2 light_yellow3 grey84 gray84 light_steel_blue1 yellow2",
  "dark_olive_green1 honeydew2 light_cyan1 red1 deep_pink2 deep_pink1 magenta1 orange_red1",
  "indian_red1 hot_pink dark_orange salmon1 light_coral pale_violet_red1 orchid2 orchid1 orange1",
  "sandy_brown light_salmon1 light_pink1 pink1 plum1 gold1 navajo_white1 misty_rose1 thistle1",
  "yellow1 light_goldenrod1 khaki1 wheat1 cornsilk1 grey100 gray100 grey3 gray3 grey7 gray7",
  "grey11 gray11 grey15 gray15 grey19 gray19 grey23 gray23 grey27 gray27 grey30 gray30 grey35",
  "gray35 grey39 gray39 grey42 gray42 grey46 gray46 grey50 gray50 grey54 gray54 grey58 gray58",
  "grey62 gray62 grey66 gray66 grey70 gray70 grey74 gray74 grey78 gray78 grey82 gray82 grey85",
  "gray85 grey89 gray89 grey93 gray93"]

/-- Whether a character is a digit of base sixteen, in small letters. -/
def isHexDigit (character : Char) : Bool :=
  character.isDigit || ('a' ≤ character && character ≤ 'f')

/-- The text between the parentheses behind a word. -/
def inParentheses? (word : String) (text : List Char) : Option (List Char) :=
  match after? (word.toList ++ ['(']) text with
  | some rest => if rest.getLast? = some ')' then some rest.dropLast else .none
  | .none => .none

/-- What keeps digits from being read as a number. -/
def digitsFailure? (digits : List Char) : Option PrintFailure :=
  if digits.isEmpty then some .emptyNumber
  else if maxDigits < digits.length then some (.longNumber digits.length)
  else .none

/-- The fault of three numbers below 256 with commas between them. -/
def numbersFault? (text : List Char) : Option StyleFault :=
  let parts := splitAt ',' text
  if parts.length != 3 then some .unknown
  else
    match parts.findSome? digitsFailure? with
    | some failure => some (.badNumber failure)
    | .none =>
      if parts.all fun part => (digitsValue? 10 part).any (· ≤ 255) then .none
      else some .unknown

/-- The fault of a colour: it has a name, six digits of base sixteen behind a number sign, or one or
three numbers in parentheses. -/
def colourFault? (text : List Char) : Option StyleFault :=
  let named := text == "default".toList ||
    colourNames.any fun line => (words line.toList).contains text
  let spelled := match text with
    | '#' :: digits => digits.length = 6 && digits.all isHexDigit
    | _ => false
  let numbered := match inParentheses? "color" text with
    | some digits => 1 ≤ digits.length && digits.length ≤ 3 && digits.all Char.isDigit &&
        (digitsValue? 10 digits).any (· ≤ 255)
    | .none => false
  if named || spelled || numbered then .none
  else
    match inParentheses? "rgb" text with
    | some numbers =>
      if !numbers.isEmpty && numbers.all fun character => isDigit character || character == ','
      then numbersFault? numbers
      else some .unknown
    | .none => some .unknown

/-- The colour that a word names, in small letters. -/
def colourOf (word : List Char) : Except StyleFault String :=
  let small := lower word
  match colourFault? small with
  | .none => .ok (String.ofList small)
  | some fault => .error fault

/-! ### Normal names -/

/-- A style with an attribute. The later of two words for one attribute counts. -/
def withAttribute (style : Style) (name : String) (holds : Bool) : Style :=
  { style with attributes := (name, holds) :: style.attributes }

/-- A style with an attribute or a colour. -/
def withWord (style : Style) (word : List Char) : Except StyleFault Style :=
  match attribute? (String.ofList (lower word)) with
  | some name => .ok (style.withAttribute name true)
  | .none => (colourOf word).map fun colour => { style with colour := some colour }

/-- What the word behind it makes of a word that does not stand for itself. -/
def withPair? (style : Style) (word next : List Char) : Option (Except StyleFault Style) :=
  match String.ofList (lower word) with
  | "on" => some ((colourOf next).map fun colour => { style with background := some colour })
  | "not" =>
    match attribute? (String.ofList next) with
    | some name => some (.ok (style.withAttribute name false))
    | .none => some (.error .unknown)
  | "link" => some (.ok { style with link := some (String.ofList next) })
  | _ => .none

/-- A style with what words add to it. -/
def withWords (style : Style) : List (List Char) → Except StyleFault Style
  | [] => .ok style
  | [word] => style.withWord word
  | word :: next :: rest =>
    match style.withPair? word next with
    | some found => do withWords (← found) rest
    | .none => do withWords (← style.withWord word) (next :: rest)

/-- The style that a text names. -/
def ofText (text : List Char) : Except StyleFault Style :=
  if trim text == "none".toList then .ok none else none.withWords (words text)

/-- The normal name of a style. -/
def name (style : Style) : String :=
  let attributes := attributeNames.filterMap fun entry =>
    (style.attributes.lookup entry.1).map fun holds =>
      if holds then entry.1 else "not " ++ entry.1
  let parts := attributes ++ style.colour.toList ++
    (style.background.map ("on " ++ ·)).toList ++ (style.link.map ("link " ++ ·)).toList
  if parts.isEmpty then "none" else " ".intercalate parts

/-- The normal name of what a text names, be it a style or not. -/
def normalName (text : List Char) : Except PrintFailure (List Char) :=
  match ofText text with
  | .ok style => .ok style.name.toList
  | .error .unknown => .ok (lower (trim text))
  | .error (.badNumber failure) => .error failure

end Style

end LlmTxt.Terminal

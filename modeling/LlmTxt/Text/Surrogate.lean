/-
This file says how a text holds surrogates, which are code points and no characters. No file
holds one, but an escape of YAML may ask for one. A text keeps each as a character of private
use of its own, the stand-in. Texts are ordered by their code points, and a text that holds a
surrogate cannot be encoded.
-/

namespace LlmTxt.Text

/-- Whether a code point is a surrogate. -/
def isSurrogate (point : Nat) : Bool :=
  0xD800 ≤ point && point < 0xE000

/-- How far a stand-in is above its surrogate. -/
def standInDistance : Nat := 0x101800

/-- Whether a character stands for a surrogate. -/
def isStandIn (character : Char) : Bool :=
  0xD800 + standInDistance ≤ character.toNat && character.toNat < 0xE000 + standInDistance

/-- The code point that a character stands for. -/
def codePoint (character : Char) : Nat :=
  if isStandIn character then character.toNat - standInDistance else character.toNat

/-- The character that stands for a code point. -/
def ofCodePoint (point : Nat) : Char :=
  if isSurrogate point then Char.ofNat (point + standInDistance) else Char.ofNat point

/-- Whether a text may stand before another by the code points of both. -/
def isOrdered (first second : String) : Bool :=
  !(second.toList.map codePoint).lex (first.toList.map codePoint) (· < ·)

/-! ### Encoding -/

/-- Why a text is not encoded: how many characters stand before its first surrogate, what that is,
and how many surrogates follow it at once. -/
structure EncodingFailure where
  place : Nat
  point : Nat
  more : Nat
deriving DecidableEq, Repr

/-- What keeps a text from being encoded, where some of its characters mean surrogates. -/
def encodingFailure? (meansSurrogate : Char → Bool) (text : List Char) : Option EncodingFailure :=
  match text.dropWhile fun character => !meansSurrogate character with
  | [] => none
  | first :: rest =>
    some ⟨text.length - rest.length - 1, codePoint first, (rest.takeWhile meansSurrogate).length⟩

end LlmTxt.Text

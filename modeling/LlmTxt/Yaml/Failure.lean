/-
This file holds the ways in which reading YAML fails. A text is rejected because
it holds a character that no YAML text may hold, or because something is wrong at
a place in it: then the failure says what was being read, what is wrong, and on
which line. Two things are wrong with the numbers in a text rather than with its
form: an escape that asks for a character beyond the last one, and a number too
long to be read.
-/

import LlmTxt.Text.Quoted

namespace LlmTxt.Yaml

open Text

/-- What was being read when something went wrong. -/
inductive Context where
  | scanning (what : String)
  | parsing (what : String)
  | constructing (what : String)
  | singleDocument
  | duplicateAnchor (name : String)
deriving DecidableEq, Repr

/-- The wording of a context. -/
def Context.text : Context → String
  | scanning what => "while scanning " ++ what
  | parsing what => "while parsing " ++ what
  | constructing what => "while constructing " ++ what
  | singleDocument => "expected a single document in the stream"
  | duplicateAnchor name => "found duplicate anchor " ++ quotedString name ++ "; first occurrence"

/-- What is wrong at a place in a text. -/
inductive Problem where
  | expected (what : String) (found : Char)
  | expectedToken (what found : String)
  | expectedSeparator (closing : Char) (found : String)
  | cannotStartToken (found : Char)
  | missingColon
  | notAllowedHere (what : String)
  | badUriEscapes (reason : String)
  | zeroIndentation
  | unknownEscape (found : Char)
  | endOfStream
  | documentSeparator
  | duplicateVersion
  | incompatibleVersion
  | duplicateHandle (handle : String)
  | undefinedHandle (handle : String)
  | undefinedAlias (name : String)
  | secondOccurrence
  | anotherDocument
  | unhashableKey
  | recursiveNode
  | undefinedTag (tag : String)
  | expectedNode (what found : String)
  | expectedSingleItem (count : Nat)
  | badBinary (reason : String)
deriving DecidableEq, Repr

/-- The wording of a problem. -/
def Problem.text : Problem → String
  | expected what found =>
    "expected " ++ what ++ ", but found " ++ String.ofList (quoted [found])
  | expectedToken what found => "expected " ++ what ++ ", but found " ++ quotedString found
  | expectedSeparator closing found =>
    "expected ',' or '" ++ String.ofList [closing] ++ "', but got " ++ quotedString found
  | cannotStartToken found =>
    "found character " ++ String.ofList (quoted [found]) ++ " that cannot start any token"
  | missingColon => "could not find expected ':'"
  | notAllowedHere what => what ++ " are not allowed here"
  | badUriEscapes reason => reason
  | zeroIndentation => "expected indentation indicator in the range 1-9, but found 0"
  | unknownEscape found =>
    "found unknown escape character " ++ String.ofList (quoted [found])
  | endOfStream => "found unexpected end of stream"
  | documentSeparator => "found unexpected document separator"
  | duplicateVersion => "found duplicate YAML directive"
  | incompatibleVersion => "found incompatible YAML document (version 1.* is required)"
  | duplicateHandle handle => "duplicate tag handle " ++ quotedString handle
  | undefinedHandle handle => "found undefined tag handle " ++ quotedString handle
  | undefinedAlias name => "found undefined alias " ++ quotedString name
  | secondOccurrence => "second occurrence"
  | anotherDocument => "but found another document"
  | unhashableKey => "found unhashable key"
  | recursiveNode => "found unconstructable recursive node"
  | undefinedTag tag => "could not determine a constructor for the tag " ++ quotedString tag
  | expectedNode what found => "expected " ++ what ++ ", but found " ++ found
  | expectedSingleItem count =>
    "expected a single mapping item, but found " ++ toString count ++ " items"
  | badBinary reason => reason

/-- Why a text is rejected. Lines are counted from zero. -/
inductive Rejection where
  | unacceptable (character : Char) (position : Nat)
  | marked (context : Option Context) (problem : Problem) (line : Nat)
deriving DecidableEq, Repr

namespace Rejection

/-- The whole wording that names an unacceptable character and its place. -/
def unacceptableText (character : Char) (position : Nat) : String :=
  "unacceptable character #x" ++ String.ofList (hexAtLeast 4 character.toNat) ++
    ": special characters are not allowed\n  in \"<unicode string>\", position " ++
    toString position

/-- What is wrong, without what was being read. -/
def problemText : Rejection → String
  | unacceptable character position => unacceptableText character position
  | marked _ problem _ => problem.text

/-- The first line of the full wording, which begins with what was being read. -/
def firstLine : Rejection → String
  | unacceptable character _ =>
    "unacceptable character #x" ++ String.ofList (hexAtLeast 4 character.toNat) ++
      ": special characters are not allowed"
  | marked (some context) _ _ => context.text
  | marked none problem _ => problem.text

/-- The line that is at fault, counted from zero, where one is known. -/
def line : Rejection → Option Nat
  | unacceptable _ _ => none
  | marked _ _ line => some line

end Rejection

/-- Why no value comes of a text. -/
inductive Failure where
  | rejected (rejection : Rejection)
  | escapeOutOfRange (value : Nat)
  | tooManyDigits (count : Nat)
deriving DecidableEq, Repr

namespace Failure

/-- A failure at a place in the text. -/
def marked (context : Option Context) (problem : Problem) (line : Nat) : Failure :=
  rejected (.marked context problem line)

/-- The first number that is too large for a machine integer. -/
def machineLimit : Nat := 0x80000000

/-- An escape that asks for more than a machine integer holds. -/
def isOverflow : Failure → Bool
  | escapeOutOfRange value => machineLimit ≤ value
  | _ => false

/-- The wording of a failure. -/
def message : Failure → String
  | rejected rejection => rejection.problemText
  | escapeOutOfRange value =>
    if machineLimit ≤ value then "Python int too large to convert to C int"
    else "chr() arg not in range(0x110000)"
  | tooManyDigits count =>
    "Exceeds the limit (4300 digits) for integer string conversion: value has " ++
      toString count ++ " digits; use sys.set_int_max_str_digits() to increase the limit"

end Failure

end LlmTxt.Yaml

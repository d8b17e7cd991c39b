/-
This file reads UTF-8 strictly. A byte that cannot begin a character, one that
cannot continue it, and an end inside a character are told apart, and the failure
says which bytes are at fault. Overlong forms, surrogates and code points beyond
the last one are refused at the second byte, which is the first that shows them.
In a file a carriage return, with or without a line feed behind it, counts as a
line feed.
-/

import LlmTxt.Text.Quoted

namespace LlmTxt.Text

/-- What is wrong with some bytes. -/
inductive Utf8Problem where
  | start
  | continuation
  | ending
deriving DecidableEq, Repr

/-- Where bytes are not UTF-8: the position of the first byte at fault, its value, how many are at
fault, and what is wrong. -/
structure Utf8Failure where
  position : Nat
  byte : UInt8
  count : Nat
  problem : Utf8Problem
deriving DecidableEq, Repr

/-- The wording of what is wrong. -/
def Utf8Problem.text : Utf8Problem → String
  | start => "invalid start byte"
  | continuation => "invalid continuation byte"
  | ending => "unexpected end of data"

/-- The wording of a failure. -/
def Utf8Failure.message (failure : Utf8Failure) : String :=
  let place :=
    if failure.count = 1 then
      "byte 0x" ++ String.ofList (hexDigits 2 failure.byte.toNat) ++ " in position " ++
        toString failure.position
    else
      "bytes in position " ++ toString failure.position ++ "-" ++
        toString (failure.position + failure.count - 1)
  "'utf-8' codec can't decode " ++ place ++ ": " ++ failure.problem.text

/-- A byte that continues a character. -/
def isContinuation (byte : UInt8) : Bool :=
  0x80 ≤ byte && byte < 0xC0

/-- Whether the second byte of a character may follow the first. -/
def mayFollow (first second : UInt8) : Bool :=
  isContinuation second && !(first == 0xE0 && second < 0xA0) && !(first == 0xED && 0xA0 ≤ second) &&
    !(first == 0xF0 && second < 0x90) && !(first == 0xF4 && 0x90 ≤ second)

/-- How many bytes a character takes that begins with a byte; none for a byte that begins no
character. -/
def utf8Width (first : UInt8) : Nat :=
  if first < 0x80 then 1
  else if first < 0xC2 then 0
  else if first < 0xE0 then 2
  else if first < 0xF0 then 3
  else if first < 0xF5 then 4
  else 0

/-- The bits that the first byte of a character of some width adds to its code point. -/
def leadBits (width : Nat) (first : UInt8) : Nat :=
  if width ≤ 1 then first.toNat
  else if width = 2 then first.toNat % 32
  else if width = 3 then first.toNat % 16
  else first.toNat % 8

/-- How many of the bytes after `first` fit it, up to the width of the character. -/
def fitting (first : UInt8) (width : Nat) (rest : List UInt8) : Nat :=
  match rest with
  | [] => 0
  | second :: more =>
    if mayFollow first second then 1 + ((more.take (width - 2)).takeWhile isContinuation).length
    else 0

/-- Reads bytes from `position`; `skipped` bytes belong to a character that has been read. -/
def utf8From (position skipped : Nat) : List UInt8 → Except Utf8Failure (List Char)
  | [] => .ok []
  | first :: rest =>
    match skipped with
    | skipped + 1 => utf8From (position + 1) skipped rest
    | 0 =>
      let width := utf8Width first
      if width = 0 then .error ⟨position, first, 1, .start⟩
      else if width = 1 then
        (utf8From (position + 1) 0 rest).map (Char.ofNat first.toNat :: ·)
      else
        let fits := fitting first width rest
        if fits = width - 1 then
          let point := (rest.take (width - 1)).foldl (fun bits byte => bits * 64 + byte.toNat % 64)
            (leadBits width first)
          (utf8From (position + 1) (width - 1) rest).map (Char.ofNat point :: ·)
        else if fits = rest.length then .error ⟨position, first, fits + 1, .ending⟩
        else .error ⟨position, first, fits + 1, .continuation⟩

/-- The text that bytes hold. -/
def decodeUtf8 (bytes : List UInt8) : Except Utf8Failure (List Char) :=
  utf8From 0 0 bytes

/-! ### Files -/

/-- A text with a line feed for each carriage return and for both together. -/
def withLineFeeds : List Char → List Char
  | [] => []
  | '\r' :: '\n' :: rest => '\n' :: withLineFeeds rest
  | '\r' :: rest => '\n' :: withLineFeeds rest
  | character :: rest => character :: withLineFeeds rest

/-- The text of a file. -/
def fileText (bytes : List UInt8) : Except Utf8Failure (List Char) :=
  (decodeUtf8 bytes).map withLineFeeds

end LlmTxt.Text

/-
This file reads the dates and times of YAML: a date alone, or a date and a time with a
part of a second and a distance from the standard time. What has the form of a
timestamp need not be one: a month, a day or an hour may be out of range, and so may
the distance.
-/

import LlmTxt.Text.Blank

namespace LlmTxt.Yaml

open Text

/-- A date as it is written. -/
structure WrittenDate where
  year : Nat
  month : Nat
  day : Nat
deriving DecidableEq, Repr

/-- A time as it is written, with its distance from the standard time in minutes, if it has one. -/
structure WrittenTime where
  hour : Nat
  minute : Nat
  second : Nat
  microsecond : Nat
  zone : Option Int
deriving DecidableEq, Repr

/-- A timestamp as it is written; `padded` says that month and day have two digits each. -/
structure Timestamp where
  date : WrittenDate
  time : Option WrittenTime
  padded : Bool
deriving DecidableEq, Repr

/-- What can be out of range in a timestamp. -/
inductive TimestampFault where
  | year (value : Nat)
  | month
  | day
  | hour
  | minute
  | second
  /-- The distance from the standard time, in minutes. -/
  | zone (minutes : Int)
deriving DecidableEq, Repr

namespace TimestampFault

/-- A distance in days and seconds, as messages write it; the seconds are not negative. -/
def distance (minutes : Int) : String :=
  let seconds := minutes * 60
  let days := Int.fdiv seconds 86400
  let left := Int.fmod seconds 86400
  let parts := (if days = 0 then [] else ["days=" ++ toString days]) ++
    (if left = 0 then [] else ["seconds=" ++ toString left])
  "datetime.timedelta(" ++ (if parts.isEmpty then "0" else ", ".intercalate parts) ++ ")"

/-- The wording of a fault. -/
def message : TimestampFault → String
  | year value => "year " ++ toString value ++ " is out of range"
  | month => "month must be in 1..12"
  | day => "day is out of range for month"
  | hour => "hour must be in 0..23"
  | minute => "minute must be in 0..59"
  | second => "second must be in 0..59"
  | zone minutes =>
    "offset must be a timedelta strictly between -timedelta(hours=24) and " ++
      "timedelta(hours=24), not " ++ distance minutes ++ "."

end TimestampFault

namespace Timestamp

/-! ### Reading -/

/-- The number that digits of ASCII spell. -/
def number (digits : List Char) : Nat :=
  digits.foldl (fun value digit => value * 10 + (digit.toNat - 48)) 0

/-- The digits at the beginning of a text, at least `least` and at most `most`, and what is left. -/
def takeDigits? (least most : Nat) (text : List Char) : Option (List Char × List Char) :=
  let digits := (text.take most).takeWhile Char.isDigit
  if digits.length < least then none else some (digits, text.drop digits.length)

/-- What follows a mark. -/
def afterMark? (mark : Char) : List Char → Option (List Char)
  | [] => none
  | character :: rest => if character = mark then some rest else none

/-- The part of a second behind a point, in millionths, and what is left. -/
def takeFraction (text : List Char) : Nat × List Char :=
  match afterMark? '.' text with
  | none => (0, text)
  | some rest =>
    let digits := (rest.takeWhile Char.isDigit).take 6
    (number (digits ++ List.replicate (6 - digits.length) '0'), rest.dropWhile Char.isDigit)

/-- The distance from the standard time in minutes, if a whole text is one. -/
def zone? (text : List Char) : Option (Option Int) :=
  match text with
  | [] => some none
  | ['Z'] => some (some 0)
  | sign :: rest =>
    if sign = '+' || sign = '-' then
      match takeDigits? 1 2 rest with
      | none => none
      | some (hours, left) =>
        let minutes? := match left with
          | [] => some 0
          | _ =>
            match (afterMark? ':' left).bind (takeDigits? 2 2) with
            | some (digits, []) => some (number digits)
            | _ => none
        minutes?.map fun minutes =>
          let total : Int := number hours * 60 + minutes
          some (if sign = '-' then -total else total)
    else none

/-- The time that a whole text is. -/
def time? (text : List Char) : Option WrittenTime := do
  let (hour, afterHour) ← takeDigits? 1 2 text
  let (minute, afterMinute) ← (← afterMark? ':' afterHour) |> takeDigits? 2 2
  let (second, afterSecond) ← (← afterMark? ':' afterMinute) |> takeDigits? 2 2
  let (microsecond, afterFraction) := takeFraction afterSecond
  let bare := afterFraction.dropWhile isGap
  let zone ← if bare.isEmpty && !afterFraction.isEmpty then none else zone? bare
  return ⟨number hour, number minute, number second, microsecond, zone⟩

/-- The time behind a date, or none where nothing follows the date. -/
def timePart? (text : List Char) : Option (Option WrittenTime) :=
  match text with
  | [] => some none
  | mark :: rest =>
    if mark = 'T' || mark = 't' then (time? rest).map some
    else if isGap mark then (time? (rest.dropWhile isGap)).map some
    else none

/-- The timestamp that a text is. A line feed at the end does not count. -/
def ofText? (characters : List Char) : Option Timestamp := do
  let text := if characters.getLast? = some '\n' then characters.dropLast else characters
  let (year, afterYear) ← takeDigits? 4 4 text
  let (month, afterMonth) ← (← afterMark? '-' afterYear) |> takeDigits? 1 2
  let (day, afterDay) ← (← afterMark? '-' afterMonth) |> takeDigits? 1 2
  let time ← timePart? afterDay
  return ⟨⟨number year, number month, number day⟩, time, month.length = 2 && day.length = 2⟩

/-- Whether a text without a tag is a timestamp: a date alone needs two digits for the month and
the day. -/
def isUntagged (timestamp : Timestamp) : Bool :=
  timestamp.time.isSome || timestamp.padded

/-! ### Ranges -/

/-- Whether a year has a day more. -/
def isLeap (year : Nat) : Bool :=
  year % 4 = 0 && (year % 100 != 0 || year % 400 = 0)

/-- How many days a month of a year has. -/
def daysIn (year month : Nat) : Nat :=
  if month = 2 then (if isLeap year then 29 else 28)
  else if month = 4 || month = 6 || month = 9 || month = 11 then 30
  else 31

/-- What is out of range in a date. -/
def dateFault? (date : WrittenDate) : Option TimestampFault :=
  if date.year = 0 then some (.year date.year)
  else if date.month = 0 || 12 < date.month then some .month
  else if date.day = 0 || daysIn date.year date.month < date.day then some .day
  else none

/-- What is out of range in a time. -/
def timeFault? (time : WrittenTime) : Option TimestampFault :=
  if 23 < time.hour then some .hour
  else if 59 < time.minute then some .minute
  else if 59 < time.second then some .second
  else none

/-- A distance of a day or more from the standard time. -/
def zoneFault? (time : WrittenTime) : Option TimestampFault :=
  match time.zone with
  | none => none
  | some minutes => if 1440 ≤ minutes.natAbs then some (.zone minutes) else none

/-- The first thing that is out of range in a timestamp: the distance from the standard time, the
date, and the time. -/
def fault? (timestamp : Timestamp) : Option TimestampFault :=
  (timestamp.time.bind zoneFault?).or
    ((dateFault? timestamp.date).or (timestamp.time.bind timeFault?))

end Timestamp

end LlmTxt.Yaml

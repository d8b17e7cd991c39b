/-
This file reads bytes that are written in base 64. Characters outside the alphabet are
passed over, and reading ends where padding completes a group of four. At the end a
group may not be left open: one character in it is too few for a byte, and two or
three want padding.
-/

namespace LlmTxt.Text

/-- What is wrong with a text in base 64. -/
inductive Base64Failure where
  /-- One character is left over behind whole groups; the count is that of all. -/
  | leftOver (count : Nat)
  | padding
deriving DecidableEq, Repr

/-- The wording of a failure. -/
def Base64Failure.message : Base64Failure → String
  | leftOver count =>
    "Invalid base64-encoded string: number of data characters (" ++ toString count ++
      ") cannot be 1 more than a multiple of 4"
  | padding => "Incorrect padding"

/-- The six bits that a character stands for. -/
def base64Value? (character : Char) : Option Nat :=
  let point := character.toNat
  if 65 ≤ point && point ≤ 90 then some (point - 65)
  else if 97 ≤ point && point ≤ 122 then some (point - 71)
  else if 48 ≤ point && point ≤ 57 then some (point + 4)
  else if character = '+' then some 62
  else if character = '/' then some 63
  else none

/-- The bytes that the values of a group hold: one fewer than there are values. -/
def groupBytes (values : List Nat) : List UInt8 :=
  let bits := (values ++ List.replicate (4 - values.length) 0).foldl
    (fun bits value => bits * 64 + value) 0
  ([bits / 65536, bits / 256 % 256, bits % 256].take (values.length - 1)).map UInt8.ofNat

/-- Reads bytes. `group` holds the values of the group that is being read, `pads` says how many
marks of padding have come since the last of them, and `count` how many values there were before
the group. -/
def base64From (group : List Nat) (pads count : Nat) :
    List Char → Except Base64Failure (List UInt8)
  | [] =>
    match group with
    | [] => .ok []
    | [_] => .error (.leftOver (count + 1))
    | _ => .error .padding
  | character :: rest =>
    if character = '=' then
      if 2 ≤ group.length then
        if 4 ≤ group.length + pads + 1 then .ok (groupBytes group)
        else base64From group (pads + 1) count rest
      else base64From group pads count rest
    else
      match base64Value? character with
      | none => base64From group pads count rest
      | some value =>
        if group.length = 3 then
          (base64From [] 0 (count + 4) rest).map (groupBytes (group ++ [value]) ++ ·)
        else base64From (group ++ [value]) 0 count rest

/-- The bytes that a text in base 64 holds. -/
def decodeBase64 (characters : List Char) : Except Base64Failure (List UInt8) :=
  base64From [] 0 0 characters

end LlmTxt.Text

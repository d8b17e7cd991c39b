/-
This file compares numbers exactly. An integer and a float are compared as the numbers that
they are, without rounding the integer to a float. What is no number at all is neither less
than anything nor equal to anything.
-/

namespace LlmTxt.Yaml

/-- The exact size of a number. A finite one is `digits` times two to the power `power`. -/
inductive Magnitude where
  | finite (digits power : Int)
  | infinite (negative : Bool)
  | undefined
deriving DecidableEq, Repr

namespace Magnitude

/-- The size of an integer. -/
def ofInt (value : Int) : Magnitude := finite value 0

/-- How many floats lie between two powers of two. -/
def fractionCount : Nat := 4503599627370496

/-- The size of a float: its bits are a sign, eleven bits of a power of two, and a fraction. -/
def ofFloat (value : Float) : Magnitude :=
  let bits := value.toBits.toNat
  let fraction := bits % fractionCount
  let power := bits / fractionCount % 2048
  let negative := 2048 ≤ bits / fractionCount
  if power = 2047 then
    if fraction = 0 then infinite negative else undefined
  else
    let digits : Int := if power = 0 then fraction else fraction + fractionCount
    finite (if negative then -digits else digits) (if power = 0 then -1074 else (power : Int) - 1075)

/-- A finite size as a multiple of two to a power that is not greater than its own. -/
def scaled (digits power common : Int) : Int :=
  digits * (((1 <<< (power - common).toNat : Nat)) : Int)

/-- The digits of two finite sizes as multiples of the same power of two. -/
def aligned (digits power others otherPower : Int) : Int × Int :=
  let common := if power < otherPower then power else otherPower
  (scaled digits power common, scaled others otherPower common)

/-- Whether a number is less than another. -/
def isLess : Magnitude → Magnitude → Bool
  | finite digits power, finite others otherPower =>
    let (first, second) := aligned digits power others otherPower
    first < second
  | infinite negative, finite .. => negative
  | finite .., infinite negative => !negative
  | infinite first, infinite second => first && !second
  | undefined, _ | _, undefined => false

/-- Whether two numbers are equal. -/
def isEqual : Magnitude → Magnitude → Bool
  | finite digits power, finite others otherPower =>
    let (first, second) := aligned digits power others otherPower
    first == second
  | infinite first, infinite second => first == second
  | _, _ => false

end Magnitude

end LlmTxt.Yaml

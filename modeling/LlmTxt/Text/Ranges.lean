/-
This file holds sorted ranges of code points, the form in which the character
classes of the Unicode standard are written down. Membership is a search by
halving, so that a class of many hundred ranges is cheap to ask.
-/

namespace LlmTxt.Text

/-- Inclusive ranges of code points, in rising order and disjoint. -/
abbrev Ranges := Array (Nat × Nat)

namespace Ranges

/-- Halves the window from `low` to `high` until it is empty or a range in it holds `point`. -/
def search (ranges : Ranges) (point : Nat) (low high : Nat) : Bool :=
  if low < high then
    let middle := (low + high) / 2
    match ranges[middle]? with
    | none => false
    | some (first, last) =>
      if point < first then search ranges point low middle
      else if last < point then search ranges point (middle + 1) high
      else true
  else false
termination_by high - low

/-- Whether some range holds the character. -/
def covers (ranges : Ranges) (character : Char) : Bool :=
  ranges.search character.toNat 0 ranges.size

end Ranges

end LlmTxt.Text

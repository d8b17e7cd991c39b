/-
This file holds the settings of a check: the languages that are accepted, the names
that example code may use without documenting them, and whether the order of sections
is strict.
-/

import LlmTxt.Settings.Allowed

namespace LlmTxt

/-- The settings of a check. Neither list has an order. -/
structure Settings where
  acceptedLanguages : List String
  allowed : List String
  strictOrder : Bool
deriving DecidableEq, Repr

namespace Settings

/-- The languages that are accepted unless a setting says otherwise. -/
def defaultLanguages : List String := ["python"]

/-- The settings where nothing is set. -/
def default : Settings :=
  ⟨defaultLanguages, defaultAllowed, true⟩

instance : Inhabited Settings := ⟨default⟩

end Settings

end LlmTxt

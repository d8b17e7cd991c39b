/-
This file makes settings of what is given. A setting that is not given keeps its
default. A caller can lay overrides over settings: languages take the place of those
before, names are added to those that are allowed, and both count only if something is
given.
-/

import LlmTxt.Settings
import LlmTxt.Settings.Given

namespace LlmTxt

/-- The settings that are given, each if it is. -/
structure GivenSettings where
  acceptedLanguages : Option Given
  allowed : Option Given
  strictOrder : Option Given
deriving Repr

/-- What a caller lays over settings. -/
structure Overrides where
  languages : Option Given
  allowed : Option Given
  strictOrder : Option Bool
deriving Repr

namespace Overrides

/-- No overrides. -/
def none : Overrides := ⟨.none, .none, .none⟩

end Overrides

namespace Settings

/-- The names of a list that a setting is given as; without a list, the default. -/
def givenNames (small : Bool) (default : List String) :
    Option Given → Except SettingsRefusal (List (Option String))
  | .none => .ok (default.map some)
  | some given => do GivenItem.names small (← given.listed)

/-- What a setting says, or the default where it is not given. -/
def givenTruth (default : Bool) : Option Given → Option Bool
  | .none => some default
  | some given => given.truth?

/-- The settings that are given, with the defaults for the others. What is no list is refused
before what is no value. -/
def ofGiven (given : GivenSettings) : Except SettingsRefusal Settings := do
  let languages ← givenNames true defaultLanguages given.acceptedLanguages
  let allowed ← givenNames false defaultAllowed given.allowed
  match languages.mapM id, allowed.mapM id, givenTruth true given.strictOrder with
  | some languages, some allowed, some strict =>
    return ⟨languages.eraseDups, allowed.eraseDups, strict⟩
  | _, _, _ => throw .invalid

/-- The names that an override gives, unless it is nothing. -/
def overridingNames (small : Bool) : Option Given → Except SettingsRefusal (Option (List String))
  | .none => .ok .none
  | some given => do
    if given.isNothing then return .none
    else
      match (← GivenItem.names small (← given.each)).mapM id with
      | some names => return some names
      | .none => throw .invalid

/-- Settings with overrides laid over them. -/
def withOverrides (settings : Settings) (overrides : Overrides) :
    Except SettingsRefusal Settings := do
  let languages ← overridingNames true overrides.languages
  let allowed ← overridingNames false overrides.allowed
  return {
    acceptedLanguages := (languages.map List.eraseDups).getD settings.acceptedLanguages
    allowed := (settings.allowed ++ allowed.getD []).eraseDups
    strictOrder := overrides.strictOrder.getD settings.strictOrder }

/-- The names that are allowed and not by default, sorted. -/
def addedNames (settings : Settings) : List String :=
  (settings.allowed.filter fun name => !defaultAllowed.contains name).mergeSort Text.isOrdered

/-- How many of the names that are allowed by default are not. -/
def droppedCount (settings : Settings) : Nat :=
  defaultAllowed.countP fun name => !settings.allowed.contains name

end Settings

end LlmTxt

/-
This file reads settings from a YAML file. The file is a mapping whose keys are the
names of settings, or empty. Keys that name no setting are refused together, sorted;
that takes texts, and other keys are refused one way or another. The names that a file
allows are added to those that are allowed by default.
-/

import LlmTxt.FileTree
import LlmTxt.Settings.Layer
import LlmTxt.Settings.Variables
import LlmTxt.Text.Utf8
import LlmTxt.Yaml.Data

namespace LlmTxt

open Text

/-! ### Data as settings -/

namespace Yaml.Scalar

/-- The type of a scalar. -/
def type : Scalar → ValueType
  | null => .null
  | boolean _ => .boolean
  | integer _ => .integer
  | float _ => .float
  | text _ => .text
  | binary _ => .bytes
  | date _ => .date
  | dateTime .. => .dateTime

/-- What a number of some value means where a truth value is wanted. -/
def meaning? (isZero isOne : Bool) : Option Bool :=
  if isZero then some false else if isOne then some true else none

/-- A scalar that a setting is given as. -/
def given : Scalar → Given
  | null => .single .null
  | boolean value => .truth value
  | integer value => .number .integer (meaning? (value == 0) (value == 1))
  | float value => .number .float (meaning? (value == 0.0) (value == 1.0))
  | text content => .text content
  | binary content => .bytes content
  | date _ => .single .date
  | dateTime .. => .single .dateTime

/-- A scalar in a list that a setting is given as. -/
def givenItem (scalar : Scalar) : GivenItem :=
  match scalar with
  | text content => .text content
  | binary content => .bytes content
  | other => if other.given.isNothing then .nothing else .other other.type

end Yaml.Scalar

namespace Yaml.Data

/-- The collection of a number. -/
def collectionAt (data : Data) (number : Nat) : Collection :=
  (data.collections.lookup number).getD (.list [])

/-- The type of a datum. -/
def typeOf (data : Data) : Datum → ValueType
  | .scalar value => value.type
  | .collection number =>
    match data.collectionAt number with
    | .list _ | .pairs _ => .list
    | .table _ => .mapping
    | .set _ => .set

/-- Whether a collection is empty. -/
def isEmptyAt (data : Data) (number : Nat) : Bool :=
  match data.collectionAt number with
  | .list items => items.isEmpty
  | .pairs content => content.isEmpty
  | .table content => content.isEmpty
  | .set keys => keys.isEmpty

/-- A datum in a list that a setting is given as. -/
def givenItem (data : Data) (datum : Datum) : GivenItem :=
  match datum with
  | .scalar value => value.givenItem
  | .collection number =>
    if data.isEmptyAt number then .nothing else .other (data.typeOf datum)

/-- A datum that a setting is given as. -/
def given (data : Data) : Datum → Given
  | .scalar value => value.given
  | .collection number =>
    match data.collectionAt number with
    | .list items => .items (items.map data.givenItem)
    | .pairs content => .items (content.map fun _ => .other .pair)
    | .table content => .items (content.map fun entry => entry.1.givenItem)
    | .set keys => .items (keys.map Scalar.givenItem)

end Yaml.Data

/-! ### The file -/

/-- Why two keys are in no order. -/
inductive OrderFault where
  | types (later earlier : ValueType)
  /-- One of two times has a distance from the standard time, and the other has none. -/
  | zones
  | dateAndTime
deriving DecidableEq, Repr

/-- The wording of a fault. -/
def OrderFault.message : OrderFault → String
  | types later earlier =>
    "'<' not supported between instances of '" ++ later.fullName ++ "' and '" ++
      earlier.fullName ++ "'"
  | zones => "can't compare offset-naive and offset-aware datetimes"
  | dateAndTime => "can't compare datetime.datetime to datetime.date"

/-- Why settings cannot be loaded. -/
inductive LoadFailure where
  | missingFile (path : String)
  /-- The path of a file is too long to be looked up. -/
  | tooLong (path : String)
  | notMapping (path : String) (type : ValueType)
  | unknownSettings (path : String) (names : List String)
  | notYaml (path : String) (rejection : Yaml.Rejection)
  | notBoolean (name value : String)
  /-- Something in the text of a file stands for nothing. -/
  | badData (failure : Yaml.DataFailure)
  | notUtf8 (failure : Utf8Failure)
  /-- The file of variables holds one that the environment does not take. -/
  | badVariable (refusal : Environment.Refusal)
  /-- Settings that have no name, the first of them of a type. -/
  | nameless (type : ValueType)
  /-- Settings that cannot be sorted. -/
  | unordered (fault : OrderFault)
  | refused (refusal : SettingsRefusal)
deriving DecidableEq, Repr

namespace LoadFailure

/-- The wording of a failure. -/
def message : LoadFailure → String
  | missingFile path => "Config file does not exist: " ++ path
  | tooLong path => tooLongMessage path
  | notMapping path type => path ++ ": top level must be a mapping, got " ++ type.name
  | unknownSettings path names =>
    path ++ ": unknown setting(s): " ++ ", ".intercalate names
  | notYaml path rejection => "Invalid YAML in " ++ path ++ ": " ++ rejection.firstLine
  | notBoolean name value =>
    name ++ ": expected a boolean, got '" ++ value ++ "'"
  | badData failure => failure.message
  | notUtf8 failure => failure.message
  | badVariable refusal => refusal.message
  | nameless type =>
    "sequence item 0: expected str instance, " ++ type.fullName ++ " found"
  | unordered fault => fault.message
  | refused refusal => refusal.message

/-- Whether there are details of a failure to be told. -/
def hasDetails : LoadFailure → Bool
  | notYaml .. | refused .invalid => true
  | _ => false

end LoadFailure

/-- The names of the settings. -/
def settingNames : List String :=
  ["accepted_languages", "reference_allowlist", "strict_order"]

namespace SettingsFile

/-- The smallest of some numbers. -/
def smallest (first : Yaml.Scalar) (rest : List Yaml.Scalar) : Yaml.Scalar :=
  rest.foldl (fun known scalar =>
    match scalar.magnitude?, known.magnitude? with
    | some value, some least => if value.isLess least then scalar else known
    | _, _ => known) first

/-- The names among some keys. -/
def namesOf (keys : List Yaml.Scalar) : List String :=
  keys.filterMap fun key =>
    match key with
    | .text name => some name
    | _ => none

/-- The distances from the standard time among some keys. -/
def zonesOf (keys : List Yaml.Scalar) : List (Option Int) :=
  keys.filterMap fun key =>
    match key with
    | .dateTime _ time => some time.zone
    | _ => none

/-- The fault of some keys that are not all texts and not all numbers. -/
def orderFault? (first : Yaml.Scalar) (rest : List Yaml.Scalar) : Option OrderFault :=
  let keys := first :: rest
  let zones := zonesOf keys
  if keys.all fun key => key.type == .dateTime then
    if zones.any Option.isSome && zones.any Option.isNone then some .zones else none
  else if keys.all fun key => key.type == .dateTime || key.type == .date then
    if zones.isEmpty then none else some .dateAndTime
  else
    (rest.find? fun key => key.type != first.type).map fun other => .types other.type first.type

/-- The failure of keys that name no setting. -/
def unknownKeys (path : String) (first : Yaml.Scalar) (rest : List Yaml.Scalar) : LoadFailure :=
  let keys := first :: rest
  let names := namesOf keys
  if names.length = keys.length then
    .unknownSettings path (names.mergeSort isOrdered)
  else if keys.all fun key => key.magnitude?.isSome then .nameless (smallest first rest).type
  else
    match orderFault? first rest with
    | some fault => .unordered fault
    | none => .nameless first.type

/-- The names that a file allows, together with those that are allowed by default. -/
def extended (given : Given) : Except SettingsRefusal Given :=
  if given.isNothing then .ok (.items (Settings.defaultAllowed.map .text))
  else do return .items (Settings.defaultAllowed.map .text ++ (← given.listed))

/-- The settings that the keys of a file give. -/
def ofTable (path : String) (data : Yaml.Data) (table : List (Yaml.Scalar × Yaml.Datum)) :
    Except LoadFailure GivenSettings := do
  let isKnown := fun key : Yaml.Scalar =>
    match key with
    | .text name => settingNames.contains name
    | _ => false
  let setting? := fun name : String =>
    (table.find? fun entry => entry.1.sameKey (.text name)).map fun entry => data.given entry.2
  match (table.map (·.1)).filter fun key => !isKnown key with
  | first :: rest => throw (unknownKeys path first rest)
  | [] =>
    let allowed ← match setting? "reference_allowlist" with
      | none => pure none
      | some given => some <$> (extended given).mapError .refused
    return ⟨setting? "accepted_languages", allowed, setting? "strict_order"⟩

/-- The failure to load a file whose YAML cannot be read. -/
def yamlFailure (path : String) : Yaml.DataFailure → LoadFailure
  | .text (.rejected rejection) => .notYaml path rejection
  | other => .badData other

/-- The settings that a file gives. -/
def ofBytes (path : String) (bytes : List UInt8) : Except LoadFailure GivenSettings := do
  let characters ← (fileText bytes).mapError .notUtf8
  match (← (Yaml.Data.ofText? characters).mapError (yamlFailure path)) with
  | none => return ⟨none, none, none⟩
  | some data =>
    match data.root with
    | .scalar .null => return ⟨none, none, none⟩
    | .collection number =>
      match data.collectionAt number with
      | .table content => ofTable path data content
      | _ => throw (.notMapping path (data.typeOf data.root))
    | .scalar other => throw (.notMapping path other.type)

end SettingsFile

end LlmTxt

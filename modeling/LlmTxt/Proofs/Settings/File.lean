/-
This file says what reading a settings file comes to. The file is found first, and its bytes are read
as a text and as YAML. Then it counts what the file holds: nothing, a mapping, or something else. Only
a mapping gives settings, and only if each of its keys is the name of one; and then it gives what
stands under these keys. Of what is given, the names to allow are looked at at once, since they are
put behind those that are allowed by default.
-/

import LlmTxt.Settings.Loading

namespace LlmTxt

open Text

/-! ### Which file -/

namespace Settings

/-- The settings file with its path: the one that a caller names, or else the first that is found. -/
def settingsFile? (workspace : Workspace) (path : Option Path) : Option (Path × List UInt8) :=
  match path with
  | some path => (workspace.read? path).map fun bytes => (path, bytes)
  | none => (fileNames.map (pathHere workspace)).findSome? fun path =>
      (workspace.read? path).map fun bytes => (path, bytes)

theorem givenByFile_of_found {workspace : Workspace} {path : Option Path} {found : Path}
    {bytes : List UInt8} (file : settingsFile? workspace path = some (found, bytes)) :
    givenByFile workspace path = SettingsFile.ofBytes found.text bytes := by
  cases path with
  | some path =>
    obtain ⟨content, read, same⟩ := Option.map_eq_some_iff.mp file
    cases same
    unfold Workspace.read? at read
    split at read
    · rename_i found
      cases read
      unfold givenByFile
      dsimp only
      rw [found]
    · cases read
  | none =>
    unfold settingsFile? at file
    unfold givenByFile
    dsimp only at file ⊢
    rw [file]

/-- Without a settings file nothing is given, if no caller has named one. -/
theorem givenByFile_of_absent {workspace : Workspace}
    (absent : settingsFile? workspace none = none) :
    givenByFile workspace none = .ok ⟨none, none, none⟩ := by
  unfold settingsFile? at absent
  unfold givenByFile
  dsimp only at absent ⊢
  rw [absent]

end Settings

/-! ### What the file holds -/

namespace SettingsFile

/-- What a settings file holds. -/
inductive Content where
  | nothing
  | mapping (data : Yaml.Data) (entries : List (Yaml.Scalar × Yaml.Datum))
  | other (type : ValueType)

/-- What data hold. A null counts as nothing. -/
def Content.ofData : Option Yaml.Data → Content
  | none => nothing
  | some data =>
    match data.root with
    | .scalar .null => nothing
    | .collection number =>
      match data.collectionAt number with
      | .table entries => mapping data entries
      | _ => other (data.typeOf data.root)
    | .scalar value => other value.type

/-- What stands under a name. -/
def Content.setting? (name : String) : Content → Option Given
  | mapping data entries =>
    (entries.find? fun entry => entry.1.sameKey (.text name)).map fun entry =>
      data.given entry.2
  | nothing | other _ => none

/-- A key is the name of a setting. -/
def isSettingName : Yaml.Scalar → Bool
  | .text name => settingNames.contains name
  | _ => false

/-- What is held is nothing but settings. -/
def Content.isSettings : Content → Bool
  | nothing => true
  | mapping _ entries => entries.all fun entry => isSettingName entry.1
  | other _ => false

/-- The keys that are no names of settings. -/
def Content.unknown : Content → List Yaml.Scalar
  | mapping _ entries => (entries.map (·.1)).filter fun key => !isSettingName key
  | nothing | other _ => []

/-- What a file gives that holds nothing but settings. -/
def Content.given (content : Content) : Except LoadFailure GivenSettings :=
  match content.setting? "reference_allowlist" with
  | none => .ok ⟨content.setting? "accepted_languages", none, content.setting? "strict_order"⟩
  | some allowed =>
    match extended allowed with
    | .ok names =>
      .ok ⟨content.setting? "accepted_languages", some names, content.setting? "strict_order"⟩
    | .error refusal => .error (.refused refusal)

/-- What reading the file at a path comes to, once it is known what it holds. -/
def Content.outcome (path : String) (content : Content) : Except LoadFailure GivenSettings :=
  match content with
  | other type => .error (.notMapping path type)
  | known =>
    match known.unknown with
    | first :: rest => .error (unknownKeys path first rest)
    | [] => known.given

theorem ofTable_eq_outcome (path : String) (data : Yaml.Data)
    (entries : List (Yaml.Scalar × Yaml.Datum)) :
    ofTable path data entries = (Content.mapping data entries).outcome path := by
  unfold ofTable Content.outcome Content.unknown
  dsimp only
  have same : (fun key : Yaml.Scalar => !isSettingName key) = fun key =>
      !(match key with
        | .text name => settingNames.contains name
        | _ => false) := by
    funext key
    cases key <;> rfl
  rw [same]
  cases (entries.map (·.1)).filter fun key =>
      !(match key with
        | .text name => settingNames.contains name
        | _ => false) with
  | cons first rest => rfl
  | nil =>
    unfold Content.given Content.setting?
    dsimp only
    cases entries.find? fun entry => entry.1.sameKey (.text "reference_allowlist") with
    | none => rfl
    | some entry =>
      dsimp only [Option.map_some]
      cases extended (data.given entry.2) <;> rfl

theorem Content.unknown_of_isSettings {content : Content} (settings : content.isSettings = true) :
    content.unknown = [] := by
  cases content with
  | nothing => rfl
  | other type => rfl
  | mapping data entries =>
    refine List.filter_eq_nil_iff.mpr fun key member => ?_
    obtain ⟨entry, inside, rfl⟩ := List.mem_map.mp member
    rw [List.all_eq_true.mp settings entry inside]
    exact Bool.false_ne_true

/-- What holds nothing but settings gives them. -/
theorem Content.outcome_of_isSettings {content : Content} (settings : content.isSettings = true)
    (path : String) : content.outcome path = content.given := by
  unfold outcome
  split
  · cases settings
  · rw [unknown_of_isSettings settings]

/-- What the bytes of the file at a path hold, if they spell a text that is YAML. -/
def contentOf (path : String) (bytes : List UInt8) : Except LoadFailure Content :=
  ((fileText bytes).mapError .notUtf8).bind fun characters =>
    ((Yaml.Data.ofText? characters).mapError (yamlFailure path)).map Content.ofData

theorem contentOf_of_text {bytes : List UInt8} {characters : List Char} (path : String)
    (spelled : fileText bytes = .ok characters) :
    contentOf path bytes =
      ((Yaml.Data.ofText? characters).mapError (yamlFailure path)).map Content.ofData := by
  unfold contentOf
  rw [spelled]
  rfl

theorem ofBytes_eq_bind (path : String) (bytes : List UInt8) :
    ofBytes path bytes = (contentOf path bytes).bind (Content.outcome path) := by
  unfold ofBytes contentOf
  cases fileText bytes with
  | error failure => rfl
  | ok characters =>
    dsimp only [Except.mapError, bind, Except.bind]
    cases Yaml.Data.ofText? characters with
    | error failure => rfl
    | ok data =>
      cases data with
      | none => rfl
      | some data =>
        dsimp only [Except.map]
        unfold Content.ofData
        dsimp only
        cases data.root with
        | scalar value => cases value <;> rfl
        | collection number =>
          dsimp only
          cases data.collectionAt number with
          | table entries => exact ofTable_eq_outcome path data entries
          | list items => rfl
          | pairs content => rfl
          | set keys => rfl

end SettingsFile

end LlmTxt

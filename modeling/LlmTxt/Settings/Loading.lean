/-
This file loads settings. What a settings file gives counts least, then come the
variables of the environment, and what a caller lays over them counts most. A settings
file is the one that the caller names, or else the first of three that is in the
current directory. A file of variables there adds to the environment.
-/

import LlmTxt.FileTree
import LlmTxt.Settings.File
import LlmTxt.Settings.Variables

namespace LlmTxt

open Text

namespace Settings

/-- The settings files that are looked for, in order. -/
def fileNames : List String :=
  ["llmtxt-check.yaml", "llmtxt-check.yml", ".llmtxt-check.yaml"]

/-- The name of the file of variables. -/
def variableFile : String := ".env"

/-- The variable that holds the accepted languages. -/
def languagesVariable : String := "LLMTXT_CHECK_ACCEPTED_LANGUAGES"

/-- The variable that holds names to allow. -/
def allowedVariable : String := "LLMTXT_CHECK_ALLOWLIST"

/-- The variable that says whether the order is strict. -/
def strictVariable : String := "LLMTXT_CHECK_STRICT_ORDER"

/-- The variable that says that no file of variables is read. -/
def noFileVariable : String := "PYTHON_DOTENV_DISABLED"

/-- The path of a file in the current directory. -/
def pathHere (workspace : Workspace) (name : String) : Path :=
  ⟨.root, workspace.current ++ [name]⟩

/-- What a settings file gives: the one at a path, or else the first that is found. -/
def givenByFile (workspace : Workspace) (path : Option Path) :
    Except LoadFailure GivenSettings :=
  match path with
  | some path =>
    match workspace.find path with
    | .ok (.file bytes) => SettingsFile.ofBytes path.text bytes
    | .error .tooLong => .error (.tooLong path.text)
    | _ => .error (.missingFile path.text)
  | none =>
    match (fileNames.map (pathHere workspace)).findSome? fun path =>
      (workspace.read? path).map fun bytes => (path, bytes) with
    | some (path, bytes) => SettingsFile.ofBytes path.text bytes
    | none => .ok ⟨none, none, none⟩

/-- Whether an environment says that no file of variables is read. -/
def readsNoFile (environment : Environment) : Bool :=
  (environment.lookup noFileVariable).any fun value =>
    ["1", "true", "t", "yes", "y"].contains (String.ofList (value.toList.map fold))

/-- The environment with the variables of the file of variables in the current directory or in the
nearest directory around that has one, unless it says that none is read. -/
def fullEnvironment (workspace : Workspace) (environment : Environment) :
    Except LoadFailure Environment :=
  let depth := workspace.current.length
  let paths := (List.range (depth + 1)).map fun count =>
    (⟨.root, workspace.current.take (depth - count) ++ [variableFile]⟩ : Path)
  if readsNoFile environment then .ok environment
  else
    match paths.findSome? workspace.read? with
    | none => .ok environment
    | some bytes =>
      match fileText bytes with
      | .ok text => (environment.withFile text).mapError .badVariable
      | .error failure => .error (.notUtf8 failure)

/-- The value of a variable, unless it is empty. -/
def valueOf? (environment : Environment) (name : String) : Option String :=
  (environment.lookup name).filter fun value => !value.isEmpty

/-- What a variable says, in words of either case. -/
def truthOfVariable (name value : String) : Except LoadFailure Bool :=
  let word := String.ofList (lower (trim value.toList))
  if ["1", "true", "yes", "on"].contains word then .ok true
  else if ["0", "false", "no", "off"].contains word then .ok false
  else .error (.notBoolean name value)

/-- What a variable says, if it is set. -/
def strictByVariable (environment : Environment) : Except LoadFailure (Option Bool) :=
  match valueOf? environment strictVariable with
  | none => .ok none
  | some value => (truthOfVariable strictVariable value).map some

/-- The settings of a file with those of the environment over them, and with its names added. -/
def ofLayers (given : GivenSettings) (environment : Environment) : Except LoadFailure Settings := do
  let strict ← strictByVariable environment
  let layered : GivenSettings := {
    acceptedLanguages :=
      ((valueOf? environment languagesVariable).map .text).or given.acceptedLanguages
    allowed := given.allowed
    strictOrder := (strict.map .truth).or given.strictOrder }
  let settings ← (ofGiven layered).mapError .refused
  match valueOf? environment allowedVariable with
  | none => return settings
  | some names =>
    let listed ← (Given.text names).listed.mapError .refused
    (settings.withOverrides ⟨none, some (.items listed), none⟩).mapError .refused

/-- Loads settings from a file and from the environment, if that is wanted. -/
def load (workspace : Workspace) (path : Option Path) (environment : Option Environment) :
    Except LoadFailure Settings := do
  let given ← givenByFile workspace path
  match environment with
  | none => ofLayers given []
  | some known => ofLayers given (← fullEnvironment workspace known)

end Settings

end LlmTxt

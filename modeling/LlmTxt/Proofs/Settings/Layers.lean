/-
This file shows how the layers of settings go over one another. What a caller lays over the settings
counts before the variables of the environment, these count before the settings file, and the file
counts before what holds by default. For the languages and for the order of the sections, the first
layer that says something decides. The names to allow are of another kind: each layer adds its own
ones, so those that are allowed by default always stay.
-/

import LlmTxt.Proofs.Settings.Allowing
import LlmTxt.Proofs.Settings.File
import LlmTxt.Proofs.Settings.Variables
import LlmTxt.Proofs.Text.Encoding

namespace LlmTxt

open Text

/-! ### A valid file -/

namespace SettingsFile

/-- A settings file holds nothing, or a mapping of settings, each of which has a valid type. -/
structure Content.IsValid (content : Content) : Prop where
  isSettings : content.isSettings = true
  languages : ∀ given, content.setting? "accepted_languages" = some given → given.IsNameList
  allowed : ∀ given, content.setting? "reference_allowlist" = some given →
    given.IsNameList ∨ given.isNothing = true
  strict : ∀ given, content.setting? "strict_order" = some given → given.truth?.isSome = true

/-- A valid file gives its languages and its order as they stand there, and its names behind those
that are allowed by default. -/
theorem Content.IsValid.given_eq {content : Content} (valid : content.IsValid) :
    ∃ allowed, content.given =
        .ok ⟨content.setting? "accepted_languages", allowed, content.setting? "strict_order"⟩ ∧
      Settings.givenNames false Settings.defaultAllowed allowed =
        .ok ((Settings.defaultAllowed ++ Settings.bareNames
          (((content.setting? "reference_allowlist").map Given.names).getD [])).map some) := by
  unfold given
  cases found : content.setting? "reference_allowlist" with
  | none =>
    refine ⟨none, rfl, ?_⟩
    have names : Settings.bareNames (((none : Option Given).map Given.names).getD []) = [] := rfl
    rw [names, List.append_nil]
    rfl
  | some given =>
    obtain ⟨all, extended_eq, names⟩ :=
      Settings.givenNames_extended Settings.defaultAllowed (valid.allowed given found)
    dsimp only
    rw [extended_eq]
    exact ⟨some all, rfl, names⟩

end SettingsFile

namespace Settings

/-- What the settings file holds; that is nothing if none is named and none is there. -/
inductive FileHolds (workspace : Workspace) : Option Path → SettingsFile.Content → Prop
  | absent (noFile : settingsFile? workspace none = none) : FileHolds workspace none .nothing
  | found {path : Option Path} {own : Path} {bytes : List UInt8} {content : SettingsFile.Content}
      (file : settingsFile? workspace path = some (own, bytes))
      (holds : SettingsFile.contentOf own.text bytes = .ok content) :
      FileHolds workspace path content

theorem FileHolds.givenByFile_eq {workspace : Workspace} {path : Option Path}
    {content : SettingsFile.Content} (holds : FileHolds workspace path content)
    (valid : content.IsValid) : givenByFile workspace path = content.given := by
  cases holds with
  | absent noFile => exact givenByFile_of_absent noFile
  | found file holds =>
    rw [givenByFile_of_found file, SettingsFile.ofBytes_eq_bind, holds]
    exact SettingsFile.Content.outcome_of_isSettings valid.isSettings _

/-! ### The layers of a load -/

/-- The variables that a load goes by: none, unless an environment is given. -/
def variablesOf (workspace : Workspace) : Option Environment → Except LoadFailure Environment
  | none => .ok []
  | some known => fullEnvironment workspace known

theorem load_eq (workspace : Workspace) (path : Option Path) (environment : Option Environment) :
    load workspace path environment =
      (givenByFile workspace path).bind fun given =>
        (variablesOf workspace environment).bind (ofLayers given) := by
  cases environment <;> rfl

/-- A load goes by the environment, and by the file of variables where the environment is silent. -/
theorem lookup_variablesOf {workspace : Workspace} {environment : Option Environment}
    {full : Environment} (set : variablesOf workspace environment = .ok full) (name : String) :
    full.lookup name = environment.bind fun known =>
      (known.lookup name).or (inVariableFile? workspace known name) := by
  cases environment with
  | none =>
    cases set
    rfl
  | some known => exact lookup_fullEnvironment set name

/-- Settings are made of lists of names and of a truth value. -/
theorem ofGiven_of_names {given : GivenSettings} {languages allowed : List String} {strict : Bool}
    (languagesGiven : givenNames true defaultLanguages given.acceptedLanguages =
      .ok (languages.map some))
    (allowedGiven : givenNames false defaultAllowed given.allowed = .ok (allowed.map some))
    (strictGiven : givenTruth true given.strictOrder = some strict) :
    ofGiven given = .ok ⟨languages.eraseDups, allowed.eraseDups, strict⟩ := by
  unfold ofGiven
  rw [languagesGiven, allowedGiven]
  dsimp only [bind, Except.bind]
  rw [mapM_id_some, mapM_id_some, strictGiven]
  rfl

/-- The languages of a variable count before those of the file, and these before the default. -/
theorem givenNames_layered (value? : Option String) {file? : Option Given}
    (valid : ∀ given, file? = some given → given.IsNameList) :
    givenNames true defaultLanguages ((value?.map .text).or file?) =
      .ok ((smallNames (((value?.map Given.separated).or (file?.map Given.names)).getD
        defaultLanguages)).map some) := by
  cases value? with
  | some value => exact givenNames_of_isNameList true defaultLanguages trivial
  | none =>
    cases file? with
    | some given => exact givenNames_of_isNameList true defaultLanguages (valid given rfl)
    | none =>
      refine Eq.trans ?_ (congrArg (fun names => Except.ok (names.map some))
        smallNames_defaultLanguages.symm)
      rfl

/-- What the variable for the order of the sections says. -/
def variableTruth? (environment : Environment) : Option Bool :=
  (valueOf? environment strictVariable).bind fun value =>
    (truthOfVariable strictVariable value).toOption

theorem strictByVariable_eq {environment : Environment}
    (valid : ∀ value, valueOf? environment strictVariable = some value →
      ∃ truth, truthOfVariable strictVariable value = .ok truth) :
    strictByVariable environment = .ok (variableTruth? environment) := by
  unfold strictByVariable variableTruth?
  cases set : valueOf? environment strictVariable with
  | none => rfl
  | some value =>
    obtain ⟨truth, meant⟩ := valid value set
    dsimp only [Option.bind_some]
    rw [meant]
    rfl

/-- The order that a variable asks for counts before that of the file, and this before the
default. -/
theorem givenTruth_layered (truth? : Option Bool) {file? : Option Given}
    (valid : ∀ given, file? = some given → given.truth?.isSome = true) :
    givenTruth true ((truth?.map .truth).or file?) =
      some ((truth?.or (file?.bind Given.truth?)).getD true) := by
  cases truth? with
  | some truth => rfl
  | none =>
    cases file? with
    | none => rfl
    | some given =>
      obtain ⟨truth, meant⟩ := Option.isSome_iff_exists.mp (valid given rfl)
      rw [Option.bind_some, meant]
      exact meant

/-- What a file and the variables give together, but for the names that a variable adds. -/
def layered (given : GivenSettings) (environment : Environment) : GivenSettings where
  acceptedLanguages :=
    ((valueOf? environment languagesVariable).map .text).or given.acceptedLanguages
  allowed := given.allowed
  strictOrder := ((variableTruth? environment).map .truth).or given.strictOrder

/-- The names that a variable adds to those that are allowed. -/
def variableNames (environment : Environment) : List String :=
  ((valueOf? environment allowedVariable).map Given.separated).getD []

/-- A variable that holds names to allow adds them, which is never refused. -/
theorem exists_allowed_of_variable (settings : Settings) (names? : Option String) :
    ∃ allowed : List String, (match names? with
        | none => Except.ok settings
        | some names => ((Given.text names).listed.mapError LoadFailure.refused).bind fun listed =>
          (settings.withOverrides ⟨none, some (.items listed), none⟩).mapError .refused) =
        .ok { settings with allowed } ∧
      ∀ name, name ∈ allowed ↔
        name ∈ settings.allowed ∨ name ∈ bareNames ((names?.map Given.separated).getD []) := by
  cases names? with
  | none => exact ⟨settings.allowed, rfl, fun name => (or_iff_left List.not_mem_nil).symm⟩
  | some names =>
    have added := settings.withOverrides_allowing (Given.separated names)
    unfold Overrides.allowing at added
    dsimp only
    rw [Given.listed_text]
    dsimp only [Except.mapError, Except.bind]
    rw [added]
    refine ⟨_, rfl, fun name => ?_⟩
    rw [List.mem_eraseDups, List.mem_append]
    rfl

/-- Names that are allowed already are allowed with those that a variable adds. -/
theorem ofLayers_of_layered {given : GivenSettings} {environment : Environment}
    (valid : ∀ value, valueOf? environment strictVariable = some value →
      ∃ truth, truthOfVariable strictVariable value = .ok truth)
    {settings : Settings} (made : ofGiven (layered given environment) = .ok settings) :
    ∃ allowed, ofLayers given environment = .ok { settings with allowed } ∧
      ∀ name, name ∈ allowed ↔
        name ∈ settings.allowed ∨ name ∈ bareNames (variableNames environment) := by
  unfold layered at made
  unfold ofLayers
  rw [strictByVariable_eq valid]
  dsimp only [bind, Except.bind]
  rw [made]
  exact exists_allowed_of_variable settings (valueOf? environment allowedVariable)

/-- What is loaded from a valid file under variables of which that for the order says yes or no. -/
theorem load_of_isValid {workspace : Workspace} {path : Option Path}
    {environment : Option Environment} {content : SettingsFile.Content} {full : Environment}
    (holds : FileHolds workspace path content) (valid : content.IsValid)
    (set : variablesOf workspace environment = .ok full)
    (validTruth : ∀ value, valueOf? full strictVariable = some value →
      ∃ truth, truthOfVariable strictVariable value = .ok truth) :
    ∃ loaded, load workspace path environment = .ok loaded ∧
      loaded.acceptedLanguages =
        (smallNames ((((valueOf? full languagesVariable).map Given.separated).or
          ((content.setting? "accepted_languages").map Given.names)).getD
            defaultLanguages)).eraseDups ∧
      loaded.strictOrder = ((variableTruth? full).or
        ((content.setting? "strict_order").bind Given.truth?)).getD true ∧
      ∀ name, name ∈ loaded.allowed ↔
        (name ∈ defaultAllowed ∨
          name ∈ bareNames (((content.setting? "reference_allowlist").map Given.names).getD [])) ∨
        name ∈ bareNames (variableNames full) := by
  obtain ⟨all, given_eq, names⟩ := valid.given_eq
  have made : ofGiven (layered ⟨content.setting? "accepted_languages", all,
      content.setting? "strict_order"⟩ full) = .ok ⟨_, _, _⟩ :=
    ofGiven_of_names (givenNames_layered _ valid.languages) names
      (givenTruth_layered _ valid.strict)
  obtain ⟨allowed, layers, mem_allowed⟩ := ofLayers_of_layered validTruth made
  have run : load workspace path environment =
      ofLayers ⟨content.setting? "accepted_languages", all, content.setting? "strict_order"⟩
        full := by
    rw [load_eq, holds.givenByFile_eq valid, given_eq, set]
    rfl
  refine ⟨_, run.trans layers, rfl, rfl, fun name => ?_⟩
  dsimp only at mem_allowed ⊢
  rw [mem_allowed, List.mem_eraseDups, List.mem_append]

/-! ### What a caller lays over -/

/-- The overrides of a caller who gives names one by one. -/
def overridesOf (languages allowed : Option (List String)) (strictOrder : Option Bool) :
    Overrides where
  languages := languages.map fun names => .items (names.map .text)
  allowed := allowed.map fun names => .items (names.map .text)
  strictOrder := strictOrder

/-- Overrides that hold texts are never refused. -/
theorem withOverrides_overridesOf (settings : Settings) (languages allowed : Option (List String))
    (strictOrder : Option Bool) :
    settings.withOverrides (overridesOf languages allowed strictOrder) =
      .ok {
        acceptedLanguages := (((languages.filter fun names => !names.isEmpty).map smallNames).map
          List.eraseDups).getD settings.acceptedLanguages
        allowed := (settings.allowed ++ ((allowed.filter fun names => !names.isEmpty).map
          bareNames).getD []).eraseDups
        strictOrder := strictOrder.getD settings.strictOrder } := by
  unfold withOverrides overridesOf
  rw [overridingNames_text, overridingNames_text]
  rfl

/-! ### All layers together -/

/-- Each setting goes by the layers above in their order. The variables are those of the environment,
and of the file of variables where the environment has none. If the settings file is valid and the
variable for the order says yes or no, then the load succeeds, and so does whatever a caller lays over
it. The languages are those of the first layer that gives some; the order is that which the first
layer asks for; and the names of all layers are allowed besides those that are allowed by default, of
which none is dropped. -/
theorem layers_go_by_precedence {workspace : Workspace} {path : Option Path}
    {environment : Option Environment} {content : SettingsFile.Content} {full : Environment}
    (holds : FileHolds workspace path content) (valid : content.IsValid)
    (set : variablesOf workspace environment = .ok full)
    (validTruth : ∀ value, valueOf? full strictVariable = some value →
      ∃ truth, truthOfVariable strictVariable value = .ok truth)
    (languages allowed : Option (List String)) (strictOrder : Option Bool) :
    (∀ name, full.lookup name = environment.bind fun known =>
      (known.lookup name).or (inVariableFile? workspace known name)) ∧
    ∃ loaded settings, load workspace path environment = .ok loaded ∧
      loaded.withOverrides (overridesOf languages allowed strictOrder) = .ok settings ∧
      (∀ name, name ∈ settings.acceptedLanguages ↔
        name ∈ smallNames ((((languages.filter fun names => !names.isEmpty).or
          ((valueOf? full languagesVariable).map Given.separated)).or
          ((content.setting? "accepted_languages").map Given.names)).getD defaultLanguages)) ∧
      settings.strictOrder = ((strictOrder.or (variableTruth? full)).or
        ((content.setting? "strict_order").bind Given.truth?)).getD true ∧
      (∀ name, name ∈ settings.allowed ↔
        name ∈ defaultAllowed ∨
        name ∈ bareNames (((content.setting? "reference_allowlist").map Given.names).getD []) ∨
        name ∈ bareNames (variableNames full) ∨ name ∈ bareNames (allowed.getD [])) ∧
      settings.droppedCount = 0 := by
  obtain ⟨loaded, run, loadedLanguages, loadedOrder, mem_loaded⟩ :=
    load_of_isValid holds valid set validTruth
  have mem_allowed (name : String) :
      name ∈ (loaded.allowed ++ ((allowed.filter fun names => !names.isEmpty).map
        bareNames).getD []).eraseDups ↔
      name ∈ defaultAllowed ∨
      name ∈ bareNames (((content.setting? "reference_allowlist").map Given.names).getD []) ∨
      name ∈ bareNames (variableNames full) ∨ name ∈ bareNames (allowed.getD []) := by
    have given : ((allowed.filter fun names => !names.isEmpty).map bareNames).getD [] =
        bareNames (allowed.getD []) := by
      cases allowed with
      | none => rfl
      | some names => cases names <;> rfl
    rw [given, List.mem_eraseDups, List.mem_append, mem_loaded, or_assoc, or_assoc]
  refine ⟨lookup_variablesOf set, loaded, _, run,
    withOverrides_overridesOf loaded languages allowed strictOrder, ?_, ?_, mem_allowed, ?_⟩
  · intro name
    dsimp only
    rw [loadedLanguages, Option.or_assoc]
    cases languages.filter fun names => !names.isEmpty with
    | none => exact List.mem_eraseDups
    | some names => exact List.mem_eraseDups
  · dsimp only
    rw [loadedOrder]
    cases strictOrder <;> rfl
  · refine List.countP_eq_zero.mpr fun name member => ?_
    have kept := (mem_allowed name).mpr (.inl member)
    rw [List.contains_iff_mem.mpr kept]
    exact Bool.false_ne_true

/-- What is made, and has a property that can be looked at, can be had with that property. -/
theorem exists_of_toOption {Failure Made : Type} {step : Except Failure Made}
    {property : Made → Prop} [DecidablePred property]
    (checked : (step.toOption.any fun made => decide (property made)) = true) :
    ∃ made, step = .ok made ∧ property made := by
  cases step with
  | error failure => cases checked
  | ok made => exact ⟨made, rfl, of_decide_eq_true checked⟩

/-- A settings file with a value for each setting. -/
def allSettings : List UInt8 :=
  asciiBytes ("accepted_languages: [Go, Python]\n" ++
    "reference_allowlist: ' tools , '\nstrict_order: false\n").toList

/-- A directory with that settings file and a file of variables. -/
def layeredWorkspace : Workspace where
  root := .directory [
    ("llmtxt-check.yaml", .file allSettings),
    (".env", .file (asciiBytes ("LLMTXT_CHECK_STRICT_ORDER=yes\n" ++
      "LLMTXT_CHECK_ACCEPTED_LANGUAGES=rust\nLLMTXT_CHECK_ALLOWLIST=acme\n").toList))]
  current := []

/-- The environment leaves the variable for the languages empty, so that the file of variables does
not count for it and the settings file does. For the order the file of variables counts. -/
theorem layers_go_by_precedence_of_all :
    ∃ loaded settings,
      load layeredWorkspace none (some [(languagesVariable, "")]) = .ok loaded ∧
      loaded.withOverrides (overridesOf (some []) (some [" own", ""]) none) = .ok settings ∧
      (∀ name, name ∈ settings.acceptedLanguages ↔ name ∈ ["go", "python"]) ∧
      settings.strictOrder = true ∧
      (∀ name, name ∈ settings.allowed ↔
        name ∈ defaultAllowed ∨ name ∈ ["tools"] ∨ name ∈ ["acme"] ∨ name ∈ ["own"]) ∧
      settings.droppedCount = 0 := by
  obtain ⟨content, holds, isSettings, languages, names, strict⟩ : ∃ content,
      SettingsFile.contentOf (pathHere layeredWorkspace "llmtxt-check.yaml").text allSettings =
        .ok content ∧ content.isSettings = true ∧
      content.setting? "accepted_languages" = some (.items [.text "Go", .text "Python"]) ∧
      content.setting? "reference_allowlist" = some (.text " tools , ") ∧
      content.setting? "strict_order" = some (.truth false) :=
    exists_of_toOption (by decide +kernel)
  have valid : content.IsValid := by
    refine ⟨isSettings, ?_, ?_, ?_⟩
    · intro given found
      rw [languages] at found
      cases found
      exact Given.forall_isName_text ["Go", "Python"]
    · intro given found
      rw [names] at found
      cases found
      exact Or.inl trivial
    · intro given found
      rw [strict] at found
      cases found
      rfl
  have found : settingsFile? layeredWorkspace none =
      some (pathHere layeredWorkspace "llmtxt-check.yaml", allSettings) := by decide +kernel
  have set : variablesOf layeredWorkspace (some [(languagesVariable, "")]) =
      .ok [(languagesVariable, ""), (strictVariable, "yes"), (allowedVariable, "acme")] := by
    decide +kernel
  obtain ⟨-, loaded, settings, run, laid, accepted, order, allowed, dropped⟩ :=
    layers_go_by_precedence (.found found holds) valid set
      (fun value held => ⟨true, by cases held; rfl⟩) (some []) (some [" own", ""]) none
  rw [languages] at accepted
  rw [strict] at order
  rw [names] at allowed
  exact ⟨loaded, settings, run, laid, accepted, order, allowed, dropped⟩

end Settings

end LlmTxt

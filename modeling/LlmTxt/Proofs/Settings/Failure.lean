/-
This file says which failures a load of settings can end with. Callers are prepared for errors of the
settings, and for nothing else. A file whose YAML is broken, that is no mapping, or that has unknown
settings is such an error, and so is a variable that says neither yes nor no. But what stands under a
name is taken for a list of texts before it is looked at: a number there holds no items, and an item
that is no text has no white space around it to be taken away. The same goes for keys that are no
texts, which cannot be sorted or listed, and for a scalar that has the form of a date and is none. For
each of these the load ends with a failure of another kind.
-/

import LlmTxt.Proofs.Settings.Layers

namespace LlmTxt

open Text

/-- Whether a failure is an error of the settings, for which callers are prepared. -/
def LoadFailure.isConfigError : LoadFailure → Bool
  | missingFile _ | notMapping .. | unknownSettings .. | notYaml .. | notBoolean .. => true
  | refused refusal => refusal == .invalid
  | tooLong _ | badData _ | notUtf8 _ | badVariable _ | nameless _ | unordered _ => false

/-! ### Steps that end well -/

section Steps

variable {Failure Other Given Made : Type}

/-- If a step fails, then only in an acceptable way. -/
def EndsWell (good : Failure → Prop) (step : Except Failure Made) : Prop :=
  ∀ failure, step = .error failure → good failure

theorem endsWell_ok {good : Failure → Prop} (made : Made) : EndsWell good (.ok made) :=
  nofun

theorem endsWell_error {good : Failure → Prop} {failure : Failure} :
    EndsWell good (.error failure : Except Failure Made) ↔ good failure := by
  refine ⟨fun ends => ends failure rfl, fun own other same => ?_⟩
  cases same
  exact own

theorem endsWell_bind {good : Failure → Prop} {step : Except Failure Given}
    {next : Given → Except Failure Made} :
    EndsWell good (step.bind next) ↔
      EndsWell good step ∧ ∀ given, step = .ok given → EndsWell good (next given) := by
  cases step with
  | error failure =>
    exact endsWell_error.trans (endsWell_error.symm.trans (and_iff_left nofun).symm)
  | ok given =>
    refine ⟨fun ends => ⟨endsWell_ok given, fun other same => ?_⟩, fun ends => ends.2 given rfl⟩
    cases same
    exact ends

theorem endsWell_map {good : Failure → Prop} {step : Except Failure Given} (wrap : Given → Made) :
    EndsWell good (step.map wrap) ↔ EndsWell good step := by
  cases step with
  | error failure => exact endsWell_error.trans endsWell_error.symm
  | ok given => exact iff_of_true (endsWell_ok _) (endsWell_ok _)

theorem endsWell_mapError {good : Other → Prop} {step : Except Failure Made}
    (wrap : Failure → Other) :
    EndsWell good (step.mapError wrap) ↔ EndsWell (fun failure => good (wrap failure)) step := by
  cases step with
  | error failure =>
    exact endsWell_error.trans (Iff.symm endsWell_error)
  | ok made => exact iff_of_true (endsWell_ok _) (endsWell_ok _)

end Steps

/-! ### Lists of texts -/

/-- A step that does not find a value invalid ends well only if it succeeds. -/
theorem endsWell_invalid_iff {Made : Type} {step : Except SettingsRefusal Made}
    (never : step ≠ .error .invalid) :
    EndsWell (· = .invalid) step ↔ ∃ made, step = .ok made := by
  cases step with
  | ok made => exact iff_of_true (endsWell_ok made) ⟨made, rfl⟩
  | error refusal =>
    refine iff_of_false (fun ends => never ?_) nofun
    rw [ends refusal rfl]

namespace GivenItem

/-- Whether an item is neither a text nor bytes nor nothing at all. -/
def isOther : GivenItem → Bool
  | other _ => true
  | text _ | bytes _ | nothing => false

/-- The names of some items can be had unless one of the items is no text. -/
theorem names_cases (small : Bool) (items : List GivenItem) :
    ((items.all fun item => !item.isOther) = true ∧ ∃ found, names small items = .ok found) ∨
      ((items.all fun item => !item.isOther) = false ∧
        ∃ type, names small items = .error (.notText type)) := by
  induction items with
  | nil => exact .inl ⟨rfl, [], rfl⟩
  | cons item rest inductionHypothesis =>
    rw [List.all_cons]
    cases item with
    | other type => exact .inr ⟨rfl, type, rfl⟩
    | nothing => exact inductionHypothesis
    | text content | bytes content =>
      rcases inductionHypothesis with ⟨texts, found, run⟩ | ⟨others, type, run⟩
      · refine .inl ⟨texts, ?_⟩
        rw [names, run]
        exact ⟨_, (apply_ite Except.ok _ _ _).symm⟩
      · refine .inr ⟨others, type, ?_⟩
        rw [names, run]
        rfl

end GivenItem

namespace Given

/-- Whether a value holds items. -/
def holdsItems : Given → Bool
  | text _ | bytes _ | items _ => true
  | truth _ | number .. | single _ => false

/-- Whether a value holds items, and no item that is no text. Bytes hold numbers, of which zero
counts as nothing. -/
def holdsNames : Given → Bool
  | text _ => true
  | bytes content => content.all (· == 0)
  | items content => content.all fun item => !item.isOther
  | truth _ | number .. | single _ => false

/-- What holds items can be listed. -/
theorem listed_cases (given : Given) :
    (given.holdsItems = true ∧ ∃ items, given.listed = .ok items ∧
      given.holdsNames = items.all fun item => !item.isOther) ∨
    (given.holdsItems = false ∧ given.holdsNames = false ∧
      ∃ type, given.listed = .error (.notList type)) := by
  cases given with
  | text content =>
    refine .inl ⟨rfl, _, listed_text content, ?_⟩
    rw [List.all_map]
    exact (List.all_eq_true.mpr fun _ _ => rfl).symm
  | bytes content =>
    refine .inl ⟨rfl, _, rfl, ?_⟩
    rw [List.all_map]
    refine congrArg (List.all content) (funext fun byte => ?_)
    unfold Function.comp GivenItem.ofByte
    split
    · rename_i zero
      rw [zero]
      rfl
    · rename_i other
      exact beq_false_of_ne other
  | items content => exact .inl ⟨rfl, content, rfl, rfl⟩
  | truth value => exact .inr ⟨rfl, rfl, _, rfl⟩
  | number type meaning => exact .inr ⟨rfl, rfl, _, rfl⟩
  | single type => exact .inr ⟨rfl, rfl, _, rfl⟩

end Given

namespace Settings

/-- A list of names that is given comes to names if it holds nothing else, and is refused in a way
that callers are not prepared for if it does. -/
theorem givenNames_cases (small : Bool) (default : List String) (given? : Option Given) :
    (given?.all Given.holdsNames = true ∧ ∃ names, givenNames small default given? = .ok names) ∨
      (given?.all Given.holdsNames = false ∧
        ∃ refusal, givenNames small default given? = .error refusal ∧ refusal ≠ .invalid) := by
  cases given? with
  | none => exact .inl ⟨rfl, _, rfl⟩
  | some given =>
    have run : givenNames small default (some given) =
        given.listed.bind (GivenItem.names small) := rfl
    rw [run, Option.all_some]
    rcases given.listed_cases with ⟨-, items, listed, holds⟩ | ⟨-, holds, type, listed⟩
    · rw [listed, holds]
      rcases GivenItem.names_cases small items with ⟨texts, found⟩ | ⟨others, type, refused⟩
      · exact .inl ⟨texts, found⟩
      · exact .inr ⟨others, _, refused, nofun⟩
    · rw [listed]
      exact .inr ⟨holds, _, rfl, nofun⟩

theorem exists_givenNames_iff (small : Bool) (default : List String) (given? : Option Given) :
    (∃ names, givenNames small default given? = .ok names) ↔
      given?.all Given.holdsNames = true := by
  rcases givenNames_cases small default given? with ⟨holds, found⟩ | ⟨holds, refusal, refused, -⟩
  · exact iff_of_true found holds
  · rw [refused, holds]
    exact iff_of_false nofun Bool.false_ne_true

theorem endsWell_givenNames_iff (small : Bool) (default : List String) (given? : Option Given) :
    EndsWell (· = .invalid) (givenNames small default given?) ↔
      given?.all Given.holdsNames = true := by
  refine (endsWell_invalid_iff fun invalid => ?_).trans (exists_givenNames_iff ..)
  rcases givenNames_cases small default given? with ⟨-, names, found⟩ | ⟨-, refusal, refused, other⟩
  · rw [found] at invalid
    cases invalid
  · rw [refused] at invalid
    cases invalid
    exact other rfl

/-- Settings that are made of what is given end well if their lists hold nothing but texts. -/
theorem endsWell_ofGiven_iff (given : GivenSettings) :
    EndsWell (· = .invalid) (ofGiven given) ↔
      given.acceptedLanguages.all Given.holdsNames = true ∧
        given.allowed.all Given.holdsNames = true := by
  unfold ofGiven
  refine endsWell_bind.trans ?_
  rw [endsWell_givenNames_iff]
  refine and_congr_right fun languagesHold => ?_
  obtain ⟨languages, found⟩ := (exists_givenNames_iff true defaultLanguages _).mpr languagesHold
  rw [found, ← endsWell_givenNames_iff false defaultAllowed]
  refine ⟨fun ends => (endsWell_bind.mp (ends languages rfl)).1, fun ends names same => ?_⟩
  refine endsWell_bind.mpr ⟨ends, fun allowed _ => ?_⟩
  split
  · exact endsWell_ok _
  · exact endsWell_error.mpr rfl

end Settings

/-! ### What the file holds -/

/-- Whether a key is a text. -/
def Yaml.Scalar.isText : Yaml.Scalar → Bool
  | text _ => true
  | _ => false

namespace SettingsFile

theorem length_namesOf_iff (keys : List Yaml.Scalar) :
    (namesOf keys).length = keys.length ↔ keys.all Yaml.Scalar.isText = true := by
  unfold namesOf
  rw [List.filterMap_length_eq_length, List.all_eq_true]
  refine forall₂_congr fun key _ => ?_
  cases key <;> simp [Yaml.Scalar.isText]

/-- Unknown settings are told if all of them have names. -/
theorem isConfigError_unknownKeys (path : String) (first : Yaml.Scalar) (rest : List Yaml.Scalar) :
    (unknownKeys path first rest).isConfigError = (first :: rest).all Yaml.Scalar.isText := by
  unfold unknownKeys
  dsimp only
  split
  · rename_i named
    exact ((length_namesOf_iff _).mp named).symm
  · rename_i nameless
    have some : (first :: rest).all Yaml.Scalar.isText = false :=
      Bool.eq_false_iff.mpr fun all => nameless ((length_namesOf_iff _).mpr all)
    rw [some]
    split
    · rfl
    · split <;> rfl

/-- The names that a file allows can be put behind the others if they are nothing or hold items. -/
theorem extended_cases (given : Given) :
    ((given.isNothing || given.holdsItems) = true ∧ ∃ all, extended given = .ok all ∧
      all.holdsNames = (given.isNothing || given.holdsNames)) ∨
    ((given.isNothing || given.holdsItems) = false ∧
      ∃ refusal, extended given = .error refusal ∧ refusal ≠ .invalid) := by
  have texts (items : List GivenItem) :
      (Given.items (Settings.defaultAllowed.map .text ++ items)).holdsNames =
        items.all fun item => !item.isOther := by
    unfold Given.holdsNames
    dsimp only
    rw [List.all_append, List.all_map]
    exact Bool.and_eq_right_iff_imp.mpr fun _ => List.all_eq_true.mpr fun _ _ => rfl
  unfold extended
  cases given.isNothing with
  | true =>
    refine .inl ⟨rfl, _, rfl, ?_⟩
    have none := texts []
    rwa [List.append_nil] at none
  | false =>
    rcases given.listed_cases with ⟨holds, items, listed, names⟩ | ⟨holds, -, type, listed⟩
    · refine .inl ⟨holds, .items (Settings.defaultAllowed.map .text ++ items), ?_, ?_⟩
      · rw [listed]
        rfl
      · rw [texts, names, Bool.false_or]
    · refine .inr ⟨holds, .notList type, ?_, nofun⟩
      rw [listed]
      rfl

/-- Known settings are given as they stand, with the names to allow behind the others, if these can
be put there. -/
theorem given_cases (content : Content) :
    ((content.setting? "reference_allowlist").all (fun given =>
        given.isNothing || given.holdsItems) = true ∧
      ∃ given, content.given = .ok given ∧
        given.acceptedLanguages = content.setting? "accepted_languages" ∧
        given.allowed.all Given.holdsNames =
          (content.setting? "reference_allowlist").all fun given =>
            given.isNothing || given.holdsNames) ∨
    ((content.setting? "reference_allowlist").all (fun given =>
        given.isNothing || given.holdsItems) = false ∧
      ∃ failure, content.given = .error failure ∧ failure.isConfigError = false) := by
  unfold Content.given
  cases content.setting? "reference_allowlist" with
  | none => exact .inl ⟨rfl, _, rfl, rfl, rfl⟩
  | some given =>
    dsimp only
    rcases extended_cases given with
      ⟨holds, all, extended, names⟩ | ⟨holds, refusal, extended, other⟩
    · rw [extended]
      exact .inl ⟨holds, _, rfl, rfl, names⟩
    · rw [extended]
      exact .inr ⟨holds, _, rfl, beq_false_of_ne other⟩

/-- What is no mapping of settings is refused, in an acceptable way if its unknown keys are texts. -/
theorem exists_outcome_eq_error {content : Content} (other : content.isSettings = false)
    (path : String) :
    ∃ failure, content.outcome path = .error failure ∧
      failure.isConfigError = content.unknown.all Yaml.Scalar.isText := by
  cases content with
  | nothing => cases other
  | other type => exact ⟨_, rfl, rfl⟩
  | mapping data entries =>
    unfold Content.outcome
    dsimp only
    cases keys : (Content.mapping data entries).unknown with
    | cons first rest => exact ⟨_, rfl, isConfigError_unknownKeys path first rest⟩
    | nil =>
      have known : (Content.mapping data entries).isSettings = true := by
        refine List.all_eq_true.mpr fun entry member => ?_
        have inside := List.filter_eq_nil_iff.mp keys entry.1 (List.mem_map_of_mem member)
        rwa [Bool.not_eq_true', Bool.not_eq_false] at inside
      rw [known] at other
      cases other

/-- What a file holds makes no trouble under some variables. Its unknown keys are texts. If there are
none, the names to allow are nothing or hold items. And unless the variable for the order is refused,
the lists that count hold nothing but texts; the languages of the file do not count if a variable
holds some. -/
structure Content.IsHarmless (full : Environment) (content : Content) : Prop where
  keys : content.unknown.all Yaml.Scalar.isText = true
  listed : content.isSettings = true →
    (content.setting? "reference_allowlist").all (fun given =>
      given.isNothing || given.holdsItems) = true
  texts : content.isSettings = true →
    ∀ strict?, Settings.strictByVariable full = .ok strict? →
      (Settings.valueOf? full Settings.languagesVariable = none →
        (content.setting? "accepted_languages").all Given.holdsNames = true) ∧
      (content.setting? "reference_allowlist").all (fun given =>
        given.isNothing || given.holdsNames) = true

end SettingsFile

/-! ### The load -/

namespace Settings

/-- A variable for the order that says neither yes nor no is told. -/
theorem endsWell_strictByVariable (full : Environment) :
    EndsWell (·.isConfigError = true) (strictByVariable full) := by
  unfold strictByVariable truthOfVariable
  split
  · exact endsWell_ok _
  · rw [endsWell_map]
    dsimp only
    split_ifs
    · exact endsWell_ok _
    · exact endsWell_ok _
    · exact endsWell_error.mpr rfl

/-- Layers end well if the lists that count hold nothing but texts, or if the variable for the order
has been refused before the lists are looked at. -/
theorem endsWell_ofLayers_iff (given : GivenSettings) (full : Environment) :
    EndsWell (·.isConfigError = true) (ofLayers given full) ↔
      ∀ strict?, strictByVariable full = .ok strict? →
        (valueOf? full languagesVariable = none →
          given.acceptedLanguages.all Given.holdsNames = true) ∧
        given.allowed.all Given.holdsNames = true := by
  unfold ofLayers
  refine endsWell_bind.trans ((and_iff_right (endsWell_strictByVariable full)).trans ?_)
  refine forall₂_congr fun strict? _ => ?_
  refine endsWell_bind.trans ((and_iff_left fun settings _ => ?_).trans ?_)
  · obtain ⟨allowed, added, -⟩ :=
      exists_allowed_of_variable settings (valueOf? full allowedVariable)
    intro failure broken
    have same : (.error failure : Except LoadFailure Settings) = .ok { settings with allowed } :=
      broken.symm.trans added
    cases same
  · have acceptable : (fun refusal => (LoadFailure.refused refusal).isConfigError = true) =
        (· = .invalid) := funext fun refusal => propext beq_iff_eq
    rw [endsWell_mapError, acceptable, endsWell_ofGiven_iff]
    refine and_congr_left fun _ => ?_
    cases valueOf? full languagesVariable with
    | none => exact ⟨fun holds _ => holds, fun holds => holds rfl⟩
    | some value => exact iff_of_true rfl nofun

/-- What a file holds, with the variables over it, ends well if it is harmless. -/
theorem endsWell_outcome_bind_iff (content : SettingsFile.Content) (path : String)
    (full : Environment) :
    EndsWell (·.isConfigError = true)
        ((content.outcome path).bind fun given => ofLayers given full) ↔
      content.IsHarmless full := by
  cases known : content.isSettings with
  | false =>
    obtain ⟨failure, refused, kind⟩ := SettingsFile.exists_outcome_eq_error known path
    rw [refused]
    refine endsWell_error.trans ?_
    rw [kind]
    refine ⟨fun texts => ⟨texts, ?_, ?_⟩, fun harmless => harmless.keys⟩
    · rw [known]
      exact nofun
    · rw [known]
      exact nofun
  | true =>
    have keys : content.unknown.all Yaml.Scalar.isText = true := by
      rw [SettingsFile.Content.unknown_of_isSettings known]
      rfl
    rw [SettingsFile.Content.outcome_of_isSettings known]
    rcases SettingsFile.given_cases content with
      ⟨listed, given, run, languages, allowed⟩ | ⟨unlisted, failure, run, kind⟩
    · rw [run]
      refine (endsWell_ofLayers_iff given full).trans ?_
      rw [languages, allowed]
      exact ⟨fun texts => ⟨keys, fun _ => listed, fun _ => texts⟩,
        fun harmless => harmless.texts known⟩
    · rw [run]
      refine endsWell_error.trans ?_
      rw [kind]
      refine iff_of_false Bool.false_ne_true fun harmless => ?_
      have listed := harmless.listed known
      rw [unlisted] at listed
      cases listed

/-- A load ends well if the text of the file breaks the rules of YAML, or if what it holds is
harmless. -/
theorem endsWell_load_iff {workspace : Workspace} {path : Option Path}
    {environment : Option Environment} {own : Path} {bytes : List UInt8} {text : List Char}
    {full : Environment} (file : settingsFile? workspace path = some (own, bytes))
    (spelled : fileText bytes = .ok text) (set : variablesOf workspace environment = .ok full) :
    EndsWell (·.isConfigError = true) (load workspace path environment) ↔
      (∀ failure, Yaml.Data.ofText? text = .error failure →
        ∃ rejection, failure = .text (.rejected rejection)) ∧
      ∀ data, Yaml.Data.ofText? text = .ok data →
        (SettingsFile.Content.ofData data).IsHarmless full := by
  have run : load workspace path environment =
      (SettingsFile.contentOf own.text bytes).bind fun content =>
        (content.outcome own.text).bind fun given => ofLayers given full := by
    rw [load_eq, givenByFile_of_found file, SettingsFile.ofBytes_eq_bind, set]
    cases SettingsFile.contentOf own.text bytes <;> rfl
  cases read : Yaml.Data.ofText? text with
  | ok data =>
    have holds : SettingsFile.contentOf own.text bytes =
        .ok (SettingsFile.Content.ofData data) := by
      rw [SettingsFile.contentOf_of_text own.text spelled, read]
      rfl
    rw [run, holds]
    refine (endsWell_outcome_bind_iff _ _ full).trans
      ⟨fun harmless => ⟨nofun, ?_⟩, fun both => ?_⟩
    · intro other same
      cases same
      exact harmless
    · exact both.2 data rfl
  | error failure =>
    have broken : SettingsFile.contentOf own.text bytes =
        .error (SettingsFile.yamlFailure own.text failure) := by
      rw [SettingsFile.contentOf_of_text own.text spelled, read]
      rfl
    rw [run, broken]
    refine endsWell_error.trans ⟨fun known => ⟨?_, nofun⟩, fun both => ?_⟩
    · intro other same
      cases same
      unfold SettingsFile.yamlFailure at known
      split at known
      · exact ⟨_, rfl⟩
      · cases known
    · obtain ⟨rejection, rfl⟩ := both.1 failure rfl
      rfl

end Settings

end LlmTxt

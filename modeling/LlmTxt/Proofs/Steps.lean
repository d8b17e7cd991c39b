/-
This file says what comes of steps that may fail. Steps that are put together succeed if each of them
does. A step that is made for all items of a list gives a result for each item if it never fails, and
otherwise it fails as it does at the first item at which it fails.
-/

import Mathlib.Data.List.Forall2

namespace LlmTxt

/-! ### Single steps -/

theorem exists_of_bind_eq_ok {Failure Given Made : Type} {step : Except Failure Given}
    {next : Given → Except Failure Made} {made : Made} (run : step.bind next = .ok made) :
    ∃ given, step = .ok given ∧ next given = .ok made := by
  cases step with
  | error failure => cases run
  | ok given => exact ⟨given, rfl, run⟩

theorem eq_ok_of_mapError {Failure Other Made : Type} {wrap : Failure → Other}
    {step : Except Failure Made} {made : Made} (run : step.mapError wrap = .ok made) :
    step = .ok made := by
  cases step with
  | error failure => cases run
  | ok result => exact congrArg Except.ok (Except.ok.inj run)

/-- Two steps that are put together succeed if and only if the first does and the second does behind
it. -/
theorem exists_bind_map_ok_iff {Failure Given Further Made : Type} {step : Except Failure Given}
    {further : Given → Except Failure Further} {combine : Given → Further → Made} :
    (∃ made, (step.bind fun given => (further given).map (combine given)) = .ok made) ↔
      (∃ given, step = .ok given) ∧
        ∀ given, step = .ok given → ∃ others, further given = .ok others := by
  cases step with
  | error failure => simp [Except.bind]
  | ok given => cases others : further given <;> simp [Except.bind, Except.map, others]

/-! ### A step for each item -/

theorem mapM_eq_ok_iff {Failure Given Made : Type} {step : Given → Except Failure Made}
    {given : List Given} {made : List Made} :
    given.mapM step = .ok made ↔
      List.Forall₂ (fun one other => step one = .ok other) given made := by
  induction given generalizing made with
  | nil => cases made <;> simp [pure, Except.pure]
  | cons first rest inductionHypothesis =>
    rw [List.mapM_cons]
    cases own : step first with
    | error failure => cases made <;> simp [bind, Except.bind, own]
    | ok result =>
      cases others : rest.mapM step with
      | error failure =>
        cases made <;> simp [bind, Except.bind, own, others, ← inductionHypothesis]
      | ok results =>
        cases made <;> simp [bind, Except.bind, pure, Except.pure, own, others,
          ← inductionHypothesis]

theorem exists_of_mem_right {Given Made : Type} {Agrees : Given → Made → Prop}
    {given : List Given} {made : List Made} (pairs : List.Forall₂ Agrees given made) {result : Made}
    (member : result ∈ made) : ∃ one ∈ given, Agrees one result := by
  induction pairs with
  | nil => cases member
  | cons own others inductionHypothesis =>
    rcases List.mem_cons.mp member with rfl | later
    · exact ⟨_, List.mem_cons_self, own⟩
    · obtain ⟨one, inGiven, agrees⟩ := inductionHypothesis later
      exact ⟨one, List.mem_cons_of_mem _ inGiven, agrees⟩

theorem exists_of_mem_left {Given Made : Type} {Agrees : Given → Made → Prop}
    {given : List Given} {made : List Made} (pairs : List.Forall₂ Agrees given made) {one : Given}
    (member : one ∈ given) : ∃ result ∈ made, Agrees one result :=
  exists_of_mem_right (List.Forall₂.flip pairs) member

theorem exists_of_mem_mapM {Failure Given Made : Type} {step : Given → Except Failure Made}
    {given : List Given} {made : List Made} (run : given.mapM step = .ok made) {result : Made}
    (member : result ∈ made) : ∃ one ∈ given, step one = .ok result :=
  exists_of_mem_right (mapM_eq_ok_iff.mp run) member

theorem exists_mem_of_mapM {Failure Given Made : Type} {step : Given → Except Failure Made}
    {given : List Given} {made : List Made} (run : given.mapM step = .ok made) {one : Given}
    (member : one ∈ given) : ∃ result ∈ made, step one = .ok result :=
  exists_of_mem_left (mapM_eq_ok_iff.mp run) member

/-- Steps that each give what is meant give all that is meant. -/
theorem exists_mapM {Failure Given Made Meant : Type} {step : Given → Except Failure Made}
    {Gives : Made → Meant → Prop} {given : List Given} {meant : List Meant}
    (each : List.Forall₂ (fun one aim => ∃ result, step one = .ok result ∧ Gives result aim)
      given meant) :
    ∃ made, given.mapM step = .ok made ∧ List.Forall₂ Gives made meant := by
  induction each with
  | nil => exact ⟨[], rfl, List.Forall₂.nil⟩
  | cons own others inductionHypothesis =>
    obtain ⟨result, run, gives⟩ := own
    obtain ⟨made, runs, rest⟩ := inductionHypothesis
    refine ⟨result :: made, ?_, List.Forall₂.cons gives rest⟩
    exact mapM_eq_ok_iff.mpr (List.Forall₂.cons run (mapM_eq_ok_iff.mp runs))

theorem mapM_isOk_iff {Failure Given Made : Type} {step : Given → Except Failure Made}
    {given : List Given} :
    (∃ made, given.mapM step = .ok made) ↔ ∀ one ∈ given, ∃ result, step one = .ok result := by
  simp only [mapM_eq_ok_iff]
  induction given with
  | nil => simp
  | cons first rest inductionHypothesis =>
    rw [List.forall_mem_cons, ← inductionHypothesis]
    constructor
    · rintro ⟨_, pairs⟩
      cases pairs with
      | cons own others => exact ⟨⟨_, own⟩, _, others⟩
    · rintro ⟨⟨result, own⟩, made, others⟩
      exact ⟨result :: made, .cons own others⟩

/-- A step fails for a list as it does at the first item at which it fails. -/
theorem exists_of_mapM_eq_error {Failure Given Made : Type} {step : Given → Except Failure Made}
    {given : List Given} {failure : Failure} (run : given.mapM step = .error failure) :
    ∃ front one back, given = front ++ one :: back ∧
      (∀ earlier ∈ front, ∃ result, step earlier = .ok result) ∧ step one = .error failure := by
  induction given with
  | nil => cases run
  | cons first rest inductionHypothesis =>
    rw [List.mapM_cons] at run
    cases own : step first with
    | error other =>
      rw [own] at run
      cases run
      exact ⟨[], first, rest, rfl, nofun, own⟩
    | ok result =>
      rw [own] at run
      have behind : rest.mapM step = .error failure := by
        cases others : rest.mapM step with
        | error other =>
          rw [others] at run
          cases run
          rfl
        | ok results =>
          rw [others] at run
          cases run
      obtain ⟨front, one, back, rfl, passed, failed⟩ := inductionHypothesis behind
      exact ⟨first :: front, one, back, rfl, List.forall_mem_cons.mpr ⟨⟨result, own⟩, passed⟩, failed⟩

/-- Where each run on a changed item gives the adjusted result, so does the run on all of them. -/
theorem mapM_map_eq {Item Failure Result : Type} {change : Item → Item}
    {adjust : Result → Result} {run : Item → Except Failure Result}
    (each : ∀ item, run (change item) = (run item).map adjust) (items : List Item) :
    (items.map change).mapM run = (items.mapM run).map (List.map adjust) := by
  induction items with
  | nil => rfl
  | cons item rest inductionHypothesis =>
    rw [List.map_cons, List.mapM_cons, List.mapM_cons, each, inductionHypothesis]
    cases run item with
    | error failure => rfl
    | ok result => cases rest.mapM run <;> rfl

end LlmTxt

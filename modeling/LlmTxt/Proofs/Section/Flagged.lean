/-
This file says which sections are reported for what stands before them: those that come late, and
those that take what an earlier section has taken. A section comes again exactly if one before it is
of the same kind, where that should stand once, or is the section of the same module, and it is
reported with the first of these. Sections of unknown kind have no rank and take nothing, so the
reports are the same without them.
-/

import LlmTxt.Proofs.Section.Late

namespace LlmTxt

namespace Section

variable {sections front : List Section} {part : Section}

/-! ### Repetition -/

/-- Two sections are of one kind that should stand once, or sections of one module. -/
def TakesSame (part other : Section) : Prop :=
  part.kind = other.kind ∧ part.kind.isSingleton = true ∨
    part.kind = .moduleSection ∧ other.kind = .moduleSection ∧
      ∃ name ≠ "", part.moduleName = some name ∧ other.moduleName = some name

/-- The first section before another that takes the same. -/
def ComesAgain (front : List Section) (part : Section) (first : Nat) : Prop :=
  (∃ other ∈ front[first]?, TakesSame part other) ∧
    ∀ place < first, ∀ other ∈ front[place]?, ¬TakesSame part other

theorem takesSame_iff {other : Section} :
    TakesSame part other ↔ ∃ slot, part.slot? = some slot ∧ other.slot? = some slot := by
  constructor
  · rintro (⟨same, singleton⟩ | ⟨own, others, name, filled, named, otherNamed⟩)
    · exact ⟨.kind part.kind, slot?_eq_kind_iff.mpr ⟨rfl, singleton⟩,
        slot?_eq_kind_iff.mpr ⟨same.symm, singleton⟩⟩
    · exact ⟨.module name, slot?_eq_module_iff.mpr ⟨own, named, filled⟩,
        slot?_eq_module_iff.mpr ⟨others, otherNamed, filled⟩⟩
  · rintro ⟨slot, own, others⟩
    cases slot with
    | kind kind =>
      obtain ⟨rfl, singleton⟩ := slot?_eq_kind_iff.mp own
      exact Or.inl ⟨(slot?_eq_kind_iff.mp others).1.symm, singleton⟩
    | module name =>
      obtain ⟨isModule, named, filled⟩ := slot?_eq_module_iff.mp own
      obtain ⟨otherIsModule, otherNamed, _⟩ := slot?_eq_module_iff.mp others
      exact Or.inr ⟨isModule, otherIsModule, name, filled, named, otherNamed⟩

/-- What is said of a section behind those that are seen. -/
def againBehind (seen : List Section) (part : Section) : List (Section × Slot × Section) :=
  match part.slot? with
  | none => []
  | some slot =>
    match seen.find? fun earlier => earlier.slot? == some slot with
    | none => []
    | some first => [(part, slot, first)]

theorem repeated_cons (seen : List Section) (part : Section) (rest : List Section) :
    repeated seen (part :: rest) = againBehind seen part ++ repeated (seen ++ [part]) rest := by
  rw [repeated, againBehind]
  cases part.slot? with
  | none => rfl
  | some slot =>
    dsimp only
    cases seen.find? fun earlier => earlier.slot? == some slot <;> rfl

theorem repeated_append_singleton (seen front : List Section) (part : Section) :
    repeated seen (front ++ [part]) = repeated seen front ++ againBehind (seen ++ front) part := by
  induction front generalizing seen with
  | nil =>
    rw [List.nil_append, repeated_cons, List.append_nil]
    exact List.append_nil _
  | cons first rest inductionHypothesis =>
    rw [List.cons_append, repeated_cons, repeated_cons, inductionHypothesis, List.append_assoc,
      List.append_assoc, List.singleton_append]

/-- How a section is reported that comes again. -/
def IsRepetition (part first : Section) (diagnostic : Diagnostic) : Prop :=
  (∃ slot ∈ part.slot?, diagnostic = repetitionDiagnostic part slot first) ∧
    (diagnostic.severity = .error ↔ part.kind = .index)

theorem isRepetition_repetitionDiagnostic {slot : Slot} (taken : part.slot? = some slot)
    (first : Section) : IsRepetition part first (repetitionDiagnostic part slot first) := by
  refine ⟨⟨slot, taken, rfl⟩, ?_⟩
  unfold repetitionDiagnostic Diagnostic.ofCode
  dsimp only
  split <;> simp_all

/-- What is found behind some sections is the first that takes the same. -/
theorem comesAgain_iff_of_find? {slot : Slot} (taken : part.slot? = some slot) {first : Section}
    (found : front.find? (fun earlier => earlier.slot? == some slot) = some first) :
    ∃ place, first ∈ front[place]? ∧ ∀ earlier, ComesAgain front part earlier ↔ earlier = place := by
  have same (other : Section) : TakesSame part other ↔ (other.slot? == some slot) = true := by
    rw [takesSame_iff, taken, beq_iff_eq]
    exact ⟨fun ⟨_, own, others⟩ => own ▸ others, fun others => ⟨slot, rfl, others⟩⟩
  obtain ⟨takes, place, bound, rfl, before⟩ := List.find?_eq_some_iff_getElem.mp found
  refine ⟨place, List.getElem?_eq_getElem bound, fun earlier => ⟨?_, ?_⟩⟩
  · rintro ⟨⟨other, isOther, otherSame⟩, noneBefore⟩
    rcases Nat.lt_trichotomy earlier place with less | equal | more
    · obtain ⟨otherBound, rfl⟩ := List.getElem?_eq_some_iff.mp isOther
      have different := before earlier less
      rw [(same _).mp otherSame] at different
      cases different
    · exact equal
    · exact absurd ((same _).mpr takes)
        (noneBefore place more _ (List.getElem?_eq_getElem bound))
  · rintro rfl
    refine ⟨⟨_, List.getElem?_eq_getElem bound, (same _).mpr takes⟩, ?_⟩
    intro other less another isOther takesSame
    obtain ⟨_, rfl⟩ := List.getElem?_eq_some_iff.mp isOther
    have different := before other less
    rw [(same _).mp takesSame] at different
    cases different

/-- The sections that are reported are those that come behind one that takes the same. -/
theorem exists_reports_checkRepetition (sections : List Section) :
    ∃ reports, Reports ComesAgain IsRepetition sections reports (checkRepetition sections) := by
  induction sections using List.reverseRecOn with
  | nil => exact ⟨[], .nil⟩
  | append_singleton front part inductionHypothesis =>
    obtain ⟨reports, run⟩ := inductionHypothesis
    unfold checkRepetition at run ⊢
    rw [repeated_append_singleton, List.map_append, List.nil_append, againBehind]
    cases taken : part.slot? with
    | none =>
      refine ⟨reports, (List.append_nil _).symm ▸ run.concat_of_not_against ?_⟩
      rintro earlier ⟨⟨other, _, takesSame⟩, _⟩
      obtain ⟨slot, own, _⟩ := takesSame_iff.mp takesSame
      cases taken.symm.trans own
    | some slot =>
      dsimp only
      cases found : front.find? fun earlier => earlier.slot? == some slot with
      | none =>
        refine ⟨reports, (List.append_nil _).symm ▸ run.concat_of_not_against ?_⟩
        rintro earlier ⟨⟨other, isOther, takesSame⟩, _⟩
        obtain ⟨ownSlot, own, others⟩ := takesSame_iff.mp takesSame
        obtain rfl := Option.some.inj (own.symm.trans taken)
        have different := List.find?_eq_none.mp found other (List.mem_of_getElem? isOther)
        exact different (beq_iff_eq.mpr others)
      | some first =>
        obtain ⟨place, isFirst, own⟩ := comesAgain_iff_of_find? taken found
        exact ⟨_, run.concat own isFirst (isRepetition_repetitionDiagnostic taken first)⟩

theorem exists_comesAgain_iff {place : Nat} :
    (∃ first, ∃ part ∈ sections[place]?, ComesAgain (sections.take place) part first) ↔
      ∃ earlier < place, ∃ part ∈ sections[place]?, ∃ other ∈ sections[earlier]?,
        TakesSame part other := by
  constructor
  · rintro ⟨first, part, found, ⟨other, isOther, takesSame⟩, _⟩
    rw [List.getElem?_take] at isOther
    split at isOther
    · rename_i before
      exact ⟨first, before, part, found, other, isOther, takesSame⟩
    · cases isOther
  · rintro ⟨earlier, before, part, found, other, isOther, takesSame⟩
    obtain ⟨slot, own, others⟩ := takesSame_iff.mp takesSame
    have seen : other ∈ sections.take place :=
      List.mem_of_getElem? ((List.getElem?_take_of_lt before).trans isOther)
    have isSome : ((sections.take place).find? fun earlier => earlier.slot? == some slot).isSome :=
      List.find?_isSome.mpr ⟨other, seen, beq_iff_eq.mpr others⟩
    obtain ⟨first, isFirst⟩ := Option.isSome_iff_exists.mp isSome
    obtain ⟨top, _, comesAgain⟩ := comesAgain_iff_of_find? own isFirst
    exact ⟨top, part, found, (comesAgain top).mpr rfl⟩

/-! ### Sections of unknown kind -/

/-- Whether a section is of a kind of the vocabulary. -/
def isKnown (part : Section) : Bool :=
  part.kind != .unknown

theorem kind_of_isKnown_eq_false (unknown : part.isKnown = false) : part.kind = .unknown := by
  simpa [isKnown] using unknown

section Unknown

variable (unknown : part.kind = .unknown)

include unknown

theorem slot?_of_unknown : part.slot? = none := by
  unfold slot?
  rw [unknown]
  rfl

theorem higher_of_unknown (highest : Option Section) : higher highest part = highest := by
  cases highest with
  | none => rw [higher, unknown]; rfl
  | some top => rw [higher, unknown, SectionKind.precedes_of_unranked rfl]; rfl

theorem lateBehind_of_unknown (highest : Option Section) : lateBehind highest part = [] := by
  cases highest with
  | none => rfl
  | some top => rw [lateBehind, unknown]; rfl

theorem againBehind_of_unknown (seen : List Section) : againBehind seen part = [] := by
  rw [againBehind, slot?_of_unknown unknown]

end Unknown

theorem outOfOrder_filter_isKnown (highest : Option Section) (sections : List Section) :
    outOfOrder highest (sections.filter isKnown) = outOfOrder highest sections := by
  induction sections generalizing highest with
  | nil => rfl
  | cons part rest inductionHypothesis =>
    cases known : part.isKnown with
    | true => rw [List.filter_cons_of_pos known, outOfOrder_cons, outOfOrder_cons, inductionHypothesis]
    | false =>
      have unknown := kind_of_isKnown_eq_false known
      rw [List.filter_cons_of_neg (Bool.eq_false_iff.mp known), inductionHypothesis,
        outOfOrder_cons, lateBehind_of_unknown unknown, higher_of_unknown unknown, List.nil_append]

theorem find?_filter_isKnown (seen : List Section) (slot : Slot) :
    ((seen.filter isKnown).find? fun earlier => earlier.slot? == some slot) =
      seen.find? fun earlier => earlier.slot? == some slot := by
  rw [List.find?_filter]
  refine congrArg (List.find? · seen) (funext fun earlier => ?_)
  cases known : earlier.isKnown with
  | true => simp only [true_and, Bool.decide_eq_true]
  | false =>
    rw [slot?_of_unknown (kind_of_isKnown_eq_false known)]
    rfl

theorem repeated_filter_isKnown (seen sections : List Section) :
    repeated (seen.filter isKnown) (sections.filter isKnown) = repeated seen sections := by
  induction sections generalizing seen with
  | nil => rfl
  | cons part rest inductionHypothesis =>
    have further := inductionHypothesis (seen ++ [part])
    rw [List.filter_append] at further
    cases known : part.isKnown with
    | true =>
      rw [List.filter_singleton, known] at further
      rw [List.filter_cons_of_pos known, repeated_cons, repeated_cons, ← further]
      unfold againBehind
      simp only [find?_filter_isKnown, cond_true]
    | false =>
      rw [List.filter_singleton, known, cond_false, List.append_nil] at further
      rw [List.filter_cons_of_neg (Bool.eq_false_iff.mp known), further, repeated_cons,
        againBehind_of_unknown (kind_of_isKnown_eq_false known), List.nil_append]

/-! ### What is reported -/

/-- A section is reported as out of order exactly if it has a rank and some section before it a
higher one, with the first section of the highest rank before it; and without all that are reported
nothing is out of order. A section is reported as a repetition exactly if a section before it takes
the same, with the first that does, and this is an error exactly for an Index. Sections of unknown
kind make no difference to either. -/
theorem flagged_by_earlier_sections (strict : Bool) (sections : List Section) :
    (∃ reports, Reports ComesBehind
        (fun part top diagnostic => diagnostic = orderDiagnostic strict part top) sections reports
        (checkOrder strict sections) ∧
      (∀ place, place ∈ reports.map (·.1) ↔ ComesLate sections place) ∧
      checkOrder strict (without sections (reports.map (·.1))) = []) ∧
    (∃ reports, Reports ComesAgain IsRepetition sections reports (checkRepetition sections) ∧
      ∀ place, place ∈ reports.map (·.1) ↔
        ∃ earlier < place, ∃ part ∈ sections[place]?, ∃ other ∈ sections[earlier]?,
          TakesSame part other) ∧
    checkOrder strict (sections.filter isKnown) = checkOrder strict sections ∧
    checkRepetition (sections.filter isKnown) = checkRepetition sections := by
  refine ⟨?_, ?_, ?_, ?_⟩
  · obtain ⟨reports, run⟩ := exists_reports_checkOrder strict sections
    have late (place : Nat) : place ∈ reports.map (·.1) ↔ ComesLate sections place :=
      run.mem_places_iff.trans comesLate_iff.symm
    exact ⟨reports, run, late, checkOrder_without strict fun place => (late place).mpr⟩
  · obtain ⟨reports, run⟩ := exists_reports_checkRepetition sections
    exact ⟨reports, run, fun place => run.mem_places_iff.trans exists_comesAgain_iff⟩
  · unfold checkOrder
    rw [outOfOrder_filter_isKnown]
  · have none : ([] : List Section).filter isKnown = [] := rfl
    unfold checkRepetition
    rw [← repeated_filter_isKnown [] sections, none]

end Section

end LlmTxt

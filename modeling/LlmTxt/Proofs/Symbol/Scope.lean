/-
This file says what a heading declares by the headings before it in its section, and not by what
reading remembers of them. A heading of the fourth level declares an object. One of the fifth
declares a method if it says so and the nearest heading before it of the fourth level or above
declares a class or an exception. Nothing else declares anything.

Reading remembers one name only, that of the class or exception under which it is. The induction is
over the headings, and carries that this name is the one of the nearest heading that matters, or
none if that declares no class or exception.
-/

import LlmTxt.Proofs.Symbol.Failure

namespace LlmTxt

open Declaration

/-! ### Headings and the headings before them -/

/-- What a heading declares, if it can be read and follows the grammar. -/
def Heading.header? (heading : Heading) : Option ObjectHeader :=
  (ObjectHeader.ofHeading? heading.text.toList).toOption.join

/-- The class or exception that a heading of the fourth level declares. -/
def Heading.owner? (heading : Heading) : Option String :=
  if heading.level = objectLevel then (ofHeader heading heading.header?).owner? else none

/-- A heading of a section, with the headings before it there. -/
structure Place where
  part : Section
  before : List Heading
  heading : Heading

namespace Place

/-- The module that the section of a heading names. -/
def module (place : Place) : String :=
  place.part.moduleName.getD ""

/-- The class or exception under which a heading stands: what the nearest heading before it declares
among those of the fourth level or above. -/
def owner? (place : Place) : Option String :=
  (nearest? place.before).bind Heading.owner?

/-- A heading that has to be read as a declaration. -/
def IsRead (place : Place) : Prop :=
  IsReadBehind place.before place.heading

/-- A heading that has to be read can be read. -/
def IsReadable (place : Place) : Prop :=
  place.IsRead → ∃ header?, ObjectHeader.ofHeading? place.heading.text.toList = .ok header?

/-- A heading declares a symbol: every one of the fourth level, and one of the fifth that declares a
method under a class or an exception. -/
def IsObject (place : Place) : Prop :=
  place.heading.level = objectLevel ∨
    place.heading.level = memberLevel ∧ place.owner?.isSome = true ∧
      place.heading.header?.map (·.kind) = some .method

instance : DecidablePred IsObject :=
  fun _ => inferInstanceAs (Decidable (_ ∨ _))

/-- The declaration that a heading makes. -/
def declaration? (place : Place) : Option Declaration :=
  if place.heading.level = objectLevel then some (ofHeader place.heading place.heading.header?)
  else if place.heading.level = memberLevel then
    place.owner?.bind fun owner => ofMemberHeader owner place.heading place.heading.header?
  else none

end Place

/-- The headings of a section behind others, each with those before it. -/
def Section.placesFrom (part : Section) (before : List Heading) : List Heading → List Place
  | [] => []
  | heading :: rest => ⟨part, before, heading⟩ :: part.placesFrom (before ++ [heading]) rest

/-- The headings of a section, each with those before it. -/
def Section.places (part : Section) : List Place :=
  part.placesFrom [] part.headings

theorem Section.map_heading_placesFrom (part : Section) (before headings : List Heading) :
    (part.placesFrom before headings).map (·.heading) = headings := by
  induction headings generalizing before with
  | nil => rfl
  | cons heading rest inductionHypothesis =>
    rw [placesFrom, List.map_cons, inductionHypothesis]

theorem Section.part_of_mem_placesFrom {part : Section} {before headings : List Heading}
    {place : Place} (member : place ∈ part.placesFrom before headings) : place.part = part := by
  induction headings generalizing before with
  | nil => cases member
  | cons heading rest inductionHypothesis =>
    rcases List.mem_cons.mp member with rfl | later
    · rfl
    · exact inductionHypothesis later

/-! ### What a heading declares -/

theorem Heading.header?_of_ofHeading? {heading : Heading} {header? : Option ObjectHeader}
    (read : ObjectHeader.ofHeading? heading.text.toList = .ok header?) :
    heading.header? = header? := by
  unfold Heading.header?
  rw [read]
  rfl

/-- A heading declares a class or an exception if it has the name of one. -/
theorem Heading.declaresOwner_iff {heading : Heading} :
    DeclaresOwner heading ↔ heading.owner?.isSome = true := by
  unfold Heading.owner?
  by_cases level : heading.level = objectLevel
  · rw [if_pos level]
    cases read : ObjectHeader.ofHeading? heading.text.toList with
    | error failure =>
      have none : heading.header? = none := by
        unfold Heading.header?
        rw [read]
        rfl
      unfold DeclaresOwner
      simp [read, none, ofHeader, Declaration.owner?]
    | ok header? =>
      rw [header?_of_ofHeading? read, owner?_ofHeader_isSome_iff level read]
  · rw [if_neg level]
    exact ⟨fun declares => absurd declares.1 level, fun owned => absurd owned Bool.false_ne_true⟩

namespace Place

variable {place : Place}

theorem isRead_iff : place.IsRead ↔ place.heading.level = objectLevel ∨
    place.heading.level = memberLevel ∧ place.owner?.isSome = true := by
  unfold IsRead IsReadBehind owner?
  cases nearest? place.before with
  | none => simp
  | some own => simp [Heading.declaresOwner_iff]

theorem isSome_ofMemberHeader (owner : String) (heading : Heading) (header? : Option ObjectHeader) :
    (ofMemberHeader owner heading header?).isSome = true ↔
      header?.map (·.kind) = some .method := by
  unfold ofMemberHeader
  cases header? with
  | none => simp
  | some header =>
    dsimp only
    split <;> simp_all

theorem declaration?_of_lt (above : place.heading.level < objectLevel) :
    place.declaration? = none := by
  have notMember : ¬place.heading.level = memberLevel := by
    unfold objectLevel at above
    unfold memberLevel
    omega
  unfold declaration?
  rw [if_neg (Nat.ne_of_lt above), if_neg notMember]

theorem declaration?_of_eq (same : place.heading.level = objectLevel) :
    place.declaration? = some (ofHeader place.heading place.heading.header?) := by
  unfold declaration?
  rw [if_pos same]

theorem declaration?_of_gt (below : objectLevel < place.heading.level) :
    place.declaration? = (isMemberOf place.owner? place.heading).bind fun owner =>
      ofMemberHeader owner place.heading place.heading.header? := by
  unfold declaration? isMemberOf
  rw [if_neg (Nat.ne_of_gt below)]
  by_cases member : place.heading.level = memberLevel
  · rw [if_pos member, if_pos member]
  · rw [if_neg member, if_neg member, Option.bind_none]

/-- A heading that may declare a method of a class or an exception has to be read. -/
theorem isRead_of_isMemberOf {owner : String}
    (owned : isMemberOf place.owner? place.heading = some owner) : place.IsRead := by
  obtain ⟨member, owner_eq⟩ := Option.ite_none_right_eq_some.mp owned
  exact isRead_iff.mpr (Or.inr ⟨member, Option.isSome_of_eq_some owner_eq⟩)

/-- A heading makes a declaration if and only if it declares a symbol. -/
theorem isSome_declaration?_iff : place.declaration?.isSome = true ↔ place.IsObject := by
  unfold declaration? IsObject
  by_cases object : place.heading.level = objectLevel
  · rw [if_pos object]
    exact ⟨fun _ => Or.inl object, fun _ => rfl⟩
  · rw [if_neg object, or_iff_right object]
    by_cases member : place.heading.level = memberLevel
    · rw [if_pos member, and_iff_right member]
      cases place.owner? with
      | none => simp
      | some owner => simpa using isSome_ofMemberHeader owner place.heading place.heading.header?
    · rw [if_neg member]
      exact ⟨nofun, fun declares => absurd declares.1 member⟩

end Place

/-! ### Reading remembers the owner -/

namespace Declaration

/-- The class or exception under which a heading behind others stands. -/
def ownerBehind? (before : List Heading) : Option String :=
  (nearest? before).bind Heading.owner?

theorem ownerBehind?_concat_of_lt {heading : Heading} (above : heading.level < objectLevel)
    (before : List Heading) : ownerBehind? (before ++ [heading]) = none := by
  unfold ownerBehind?
  rw [nearest?_concat_of_le (Nat.le_of_lt above), Option.bind_some, Heading.owner?,
    if_neg (Nat.ne_of_lt above)]

theorem ownerBehind?_concat_of_eq {heading : Heading} (same : heading.level = objectLevel)
    (before : List Heading) :
    ownerBehind? (before ++ [heading]) = (ofHeader heading heading.header?).owner? := by
  unfold ownerBehind?
  rw [nearest?_concat_of_le (Nat.le_of_eq same), Option.bind_some, Heading.owner?, if_pos same]

theorem ownerBehind?_concat_of_gt {heading : Heading} (below : objectLevel < heading.level)
    (before : List Heading) : ownerBehind? (before ++ [heading]) = ownerBehind? before := by
  unfold ownerBehind?
  rw [nearest?_concat_of_lt below]

/-- What headings behind others declare, if those that are read can be read: what each declares in
its own place. -/
theorem ofHeadings_behind (part : Section) (before headings : List Heading)
    (readable : ∀ place ∈ part.placesFrom before headings, place.IsReadable) :
    ofHeadings (ownerBehind? before) headings =
      .ok ((part.placesFrom before headings).filterMap Place.declaration?) := by
  induction headings generalizing before with
  | nil => rfl
  | cons heading rest inductionHypothesis =>
    obtain ⟨own, others⟩ := List.forall_mem_cons.mp readable
    have further := inductionHypothesis _ others
    rw [Section.placesFrom]
    rcases Nat.lt_trichotomy heading.level objectLevel with above | same | below
    · rw [List.filterMap_cons_none (Place.declaration?_of_lt above), ofHeadings_of_lt above,
        ← further, ownerBehind?_concat_of_lt above]
    · obtain ⟨header?, read⟩ := own (Place.isRead_iff.mpr (Or.inl same))
      rw [ownerBehind?_concat_of_eq same, Heading.header?_of_ofHeading? read] at further
      rw [List.filterMap_cons_some (Place.declaration?_of_eq same), ofHeadings_of_eq same, read]
      dsimp only [Except.bind]
      rw [further, Heading.header?_of_ofHeading? read]
      rfl
    · have declares : Place.declaration? ⟨part, before, heading⟩ =
          (isMemberOf (ownerBehind? before) heading).bind fun owner =>
            ofMemberHeader owner heading heading.header? := Place.declaration?_of_gt below
      rw [ownerBehind?_concat_of_gt below] at further
      rw [List.filterMap_cons, declares, ofHeadings_of_gt below, further]
      cases owned : isMemberOf (ownerBehind? before) heading with
      | none => rfl
      | some owner =>
        obtain ⟨header?, read⟩ := own (Place.isRead_of_isMemberOf owned)
        rw [read, Option.bind_some, Heading.header?_of_ofHeading? read]
        dsimp only [Except.bind, Except.map]
        cases ofMemberHeader owner heading header? <;> rfl

/-- The headings of a section declare what each declares in its own place. -/
theorem ofHeadings_eq (part : Section) (readable : ∀ place ∈ part.places, place.IsReadable) :
    ofHeadings none part.headings = .ok (part.places.filterMap Place.declaration?) :=
  ofHeadings_behind part [] part.headings readable

end Declaration

end LlmTxt

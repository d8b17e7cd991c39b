/-
This file says when the module sections of a document can be read. Not every heading is read as a
declaration: one of the fourth level always is, and one of the fifth if a class or an exception
has been declared and no heading of the fourth level or above has come since. The reading of a
section succeeds if and only if none of these headings is misspelled, and headings that are not
read may say what they like.

The induction is over the headings, with those that have been read kept aside: the owner under
which a method may be declared is the nearest of them that matters.
-/

import LlmTxt.Proofs.Symbol.Declaration
import LlmTxt.Proofs.Symbol.Header
import LlmTxt.Proofs.Validation.Stages

namespace LlmTxt

namespace Declaration

/-- The nearest heading of the fourth level or above among those before a place. -/
def nearest? (before : List Heading) : Option Heading :=
  before.reverse.find? fun heading => decide (heading.level ≤ objectLevel)

/-- A heading declares a class or an exception. -/
def DeclaresOwner (heading : Heading) : Prop :=
  heading.level = objectLevel ∧
    ∃ header, ObjectHeader.ofHeading? heading.text.toList = .ok (some header) ∧
      (header.kind = .class_ ∨ header.kind = .exception)

/-- A heading behind others is read as a declaration. -/
def IsReadBehind (before : List Heading) (heading : Heading) : Prop :=
  heading.level = objectLevel ∨
    heading.level = memberLevel ∧ ∃ owner, nearest? before = some owner ∧ DeclaresOwner owner

/-- A heading behind others is spelled in letters that the grammar knows, if it is read. -/
def IsSpelledBehind (before : List Heading) (heading : Heading) : Prop :=
  IsReadBehind before heading → ¬ObjectHeader.IsMisspelled heading.text.toList

/-- All headings that are read as declarations are spelled in letters that the grammar knows. -/
def AreSpelled (headings : List Heading) : Prop :=
  ∀ before heading behind, headings = before ++ heading :: behind →
    IsSpelledBehind before heading

theorem nearest?_concat_of_le {heading : Heading} (above : heading.level ≤ objectLevel)
    (before : List Heading) : nearest? (before ++ [heading]) = some heading := by
  rw [nearest?, List.reverse_append, List.reverse_singleton, List.singleton_append]
  exact List.find?_cons_of_pos (decide_eq_true above)

theorem nearest?_concat_of_lt {heading : Heading} (below : objectLevel < heading.level)
    (before : List Heading) : nearest? (before ++ [heading]) = nearest? before := by
  have notAbove : ¬decide (heading.level ≤ objectLevel) = true := by
    rw [decide_eq_true_eq]
    exact Nat.not_le.mpr below
  rw [nearest?, List.reverse_append, List.reverse_singleton, List.singleton_append]
  exact List.find?_cons_of_neg notAbove

/-- The owner behind a heading of the fourth level is there if the heading declares one. -/
theorem owner?_ofHeader_isSome_iff {heading : Heading} (level : heading.level = objectLevel)
    {header? : Option ObjectHeader}
    (read : ObjectHeader.ofHeading? heading.text.toList = .ok header?) :
    (ofHeader heading header?).owner?.isSome = true ↔ DeclaresOwner heading := by
  unfold DeclaresOwner
  rw [read]
  cases header? with
  | none => simp [ofHeader, owner?]
  | some header =>
    simp only [ofHeader, owner?, level, true_and, Except.ok.injEq, Option.some.injEq,
      exists_eq_left']
    cases kind : header.kind <;> simp

/-! ### The owner behind some headings -/

/-- An owner is there if and only if the nearest heading that matters declares one. -/
def Tracks (before : List Heading) (owner : Option String) : Prop :=
  owner.isSome = true ↔ ∃ own, nearest? before = some own ∧ DeclaresOwner own

theorem tracks_nil : Tracks [] none := by
  unfold Tracks
  simp [nearest?]

variable {before : List Heading} {owner : Option String} {heading : Heading}

theorem tracks_of_lt (above : heading.level < objectLevel) : Tracks (before ++ [heading]) none := by
  unfold Tracks
  rw [nearest?_concat_of_le (Nat.le_of_lt above)]
  refine ⟨nofun, ?_⟩
  rintro ⟨own, ⟨⟩, level, _⟩
  exact absurd level (Nat.ne_of_lt above)

theorem tracks_of_eq (same : heading.level = objectLevel) {header? : Option ObjectHeader}
    (read : ObjectHeader.ofHeading? heading.text.toList = .ok header?) :
    Tracks (before ++ [heading]) (ofHeader heading header?).owner? := by
  unfold Tracks
  rw [owner?_ofHeader_isSome_iff same read, nearest?_concat_of_le (Nat.le_of_eq same)]
  refine ⟨fun declares => ⟨heading, rfl, declares⟩, ?_⟩
  rintro ⟨_, ⟨⟩, declares⟩
  exact declares

theorem Tracks.of_gt (tracks : Tracks before owner) (below : objectLevel < heading.level) :
    Tracks (before ++ [heading]) owner := by
  unfold Tracks
  rw [nearest?_concat_of_lt below]
  exact tracks

theorem not_isReadBehind_of_lt (above : heading.level < objectLevel) :
    ¬IsReadBehind before heading := by
  rintro (level | ⟨level, _⟩) <;> simp only [objectLevel, memberLevel] at * <;> omega

/-- Below the fourth level a heading is read if and only if it stands under an owner. -/
theorem Tracks.isReadBehind_iff (tracks : Tracks before owner)
    (below : objectLevel < heading.level) :
    IsReadBehind before heading ↔ (isMemberOf owner heading).isSome = true := by
  unfold isMemberOf IsReadBehind
  have notObject : heading.level ≠ objectLevel := Nat.ne_of_gt below
  by_cases member : heading.level = memberLevel
  · rw [if_pos member]
    constructor
    · rintro (object | ⟨_, owned⟩)
      · exact absurd object notObject
      · exact tracks.mpr owned
    · exact fun owned => Or.inr ⟨member, tracks.mp owned⟩
  · rw [if_neg member]
    simp [notObject, member]

/-! ### One heading after the other -/

/-- What holds at every place of a list holds at the first and at every place of the rest. -/
theorem forall_place_cons_iff (property : List Heading → Heading → Prop)
    {before : List Heading} {first : Heading} {rest : List Heading} :
    (∀ front heading back, first :: rest = front ++ heading :: back →
        property (before ++ front) heading) ↔
      property before first ∧
        ∀ front heading back, rest = front ++ heading :: back →
          property ((before ++ [first]) ++ front) heading := by
  constructor
  · intro all
    constructor
    · simpa using all [] first rest rfl
    · rintro front heading back rfl
      simpa using all (first :: front) heading back rfl
  · rintro ⟨own, others⟩ front heading back split
    cases front with
    | nil =>
      obtain ⟨rfl, _⟩ := List.cons.inj split
      simpa using own
    | cons other front =>
      obtain ⟨rfl, rest_eq⟩ := List.cons.inj split
      simpa using others front heading back rest_eq

theorem ofHeadings_eq_ok_iff_behind (tracks : Tracks before owner) (headings : List Heading) :
    (∃ declarations, ofHeadings owner headings = .ok declarations) ↔
      ∀ front heading back, headings = front ++ heading :: back →
        IsSpelledBehind (before ++ front) heading := by
  induction headings generalizing before owner with
  | nil => exact ⟨fun _ _ _ _ split => absurd split (by simp), fun _ => ⟨[], rfl⟩⟩
  | cons heading rest inductionHypothesis =>
    rw [forall_place_cons_iff IsSpelledBehind]
    have spelled := ObjectHeader.ofHeading?_eq_ok_iff heading.text.toList
    rcases Nat.lt_trichotomy heading.level objectLevel with above | same | below
    · have notRead := @not_isReadBehind_of_lt before heading above
      rw [ofHeadings_of_lt above, inductionHypothesis (tracks_of_lt above)]
      exact ⟨fun others => ⟨fun read => absurd read notRead, others⟩, fun both => both.2⟩
    · rw [ofHeadings_of_eq same, exists_bind_map_ok_iff]
      constructor
      · rintro ⟨⟨header?, read⟩, others⟩
        exact ⟨fun _ => spelled.mp ⟨header?, read⟩,
          (inductionHypothesis (tracks_of_eq same read)).mp (others header? read)⟩
      · rintro ⟨own, others⟩
        exact ⟨spelled.mpr (own (Or.inl same)),
          fun header? read => (inductionHypothesis (tracks_of_eq same read)).mpr others⟩
    · have isRead := tracks.isReadBehind_iff below
      rw [ofHeadings_of_gt below, ← inductionHypothesis (tracks.of_gt below)]
      cases member : isMemberOf owner heading with
      | none =>
        have notRead : ¬IsReadBehind before heading := by
          rw [isRead, member]
          exact Bool.false_ne_true
        exact ⟨fun others => ⟨fun read => absurd read notRead, others⟩, fun both => both.2⟩
      | some name =>
        dsimp only
        rw [exists_bind_map_ok_iff]
        constructor
        · rintro ⟨⟨header?, read⟩, others⟩
          exact ⟨fun _ => spelled.mp ⟨header?, read⟩, others header? read⟩
        · rintro ⟨own, others⟩
          have read : IsReadBehind before heading := isRead.mpr (member ▸ rfl)
          exact ⟨spelled.mpr (own read), fun _ _ => others⟩

/-- The headings of a section can be read if and only if those that are read are spelled. -/
theorem ofHeadings_eq_ok_iff (headings : List Heading) :
    (∃ declarations, ofHeadings none headings = .ok declarations) ↔ AreSpelled headings :=
  ofHeadings_eq_ok_iff_behind tracks_nil headings

end Declaration

/-! ### Documents -/

namespace Document

/-- Every module section that names a module has only headings that can be read. -/
def IsSpelled (document : Document) : Prop :=
  ∀ part ∈ document.moduleSections, part.moduleName.getD "" ≠ "" →
    Declaration.AreSpelled part.headings

theorem moduleContents_eq_ok_iff (document : Document) :
    (∃ contents, document.moduleContents = .ok contents) ↔ document.IsSpelled := by
  unfold moduleContents IsSpelled
  rw [mapM_isOk_iff]
  simp only [List.mem_filter, bne_iff_ne, and_imp]
  refine forall_congr' fun part => forall_congr' fun _ => forall_congr' fun _ => ?_
  rw [← Declaration.ofHeadings_eq_ok_iff]
  cases Declaration.ofHeadings none part.headings with
  | error failure =>
    constructor <;> exact fun ⟨_, impossible⟩ => (nomatch impossible)
  | ok declarations => exact ⟨fun _ => ⟨_, rfl⟩, fun _ => ⟨_, rfl⟩⟩

/-- The stages of a check come to an end if and only if the headings can be read. -/
theorem findings_eq_ok_iff (document : Document) (settings : Settings) :
    (∃ findings, document.findings settings = .ok findings) ↔ document.IsSpelled := by
  rw [findings_eq, moduleTable_eq, checkDeclarations_eq, ← moduleContents_eq_ok_iff]
  cases document.moduleContents with
  | error failure =>
    constructor <;> exact fun ⟨_, impossible⟩ => (nomatch impossible)
  | ok contents => exact ⟨fun _ => ⟨_, rfl⟩, fun _ => ⟨_, rfl⟩⟩

end Document

end LlmTxt

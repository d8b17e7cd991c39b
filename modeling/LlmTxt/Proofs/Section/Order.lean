/-
This file says when nothing is wrong with the order of sections and nothing stands there twice.
Nothing is out of order exactly if no section comes behind one that it should precede: the highest
section so far is one of those before, and what does not precede it precedes none of them. A section
appears again exactly if it takes what another has taken.
-/

import LlmTxt.Section.Rules
import Mathlib.Data.List.Nodup

namespace LlmTxt

namespace SectionKind

variable {kind other third : SectionKind}

theorem precedes_eq_false_iff :
    kind.precedes other = false ↔
      ∀ rank ∈ kind.rank, ∀ otherRank ∈ other.rank, otherRank ≤ rank := by
  unfold precedes
  cases kind.rank <;> cases other.rank <;> simp

/-- What does not precede a kind precedes none that is before that kind or shares its place. -/
theorem precedes_eq_false_trans (ranked : other.rank.isSome)
    (notBefore : kind.precedes other = false) (ordered : other.precedes third = false) :
    kind.precedes third = false := by
  rw [precedes_eq_false_iff] at *
  obtain ⟨middle, place⟩ := Option.isSome_iff_exists.mp ranked
  intro rank own otherRank last
  exact Nat.le_trans (ordered middle place otherRank last) (notBefore rank own middle place)

theorem precedes_self (kind : SectionKind) : kind.precedes kind = false := by
  cases kind <;> rfl

theorem precedes_of_unranked (unranked : other.rank.isSome = false) :
    kind.precedes other = false := by
  refine precedes_eq_false_iff.mpr fun _ _ otherRank place => ?_
  rw [Option.mem_def.mp place] at unranked
  cases unranked

end SectionKind

namespace Section

theorem higher_eq (highest : Option Section) (part : Section) :
    higher highest part = highest ∨ higher highest part = some part := by
  cases highest with
  | none =>
    unfold higher
    dsimp only
    split
    · exact Or.inr rfl
    · exact Or.inl rfl
  | some top =>
    unfold higher
    dsimp only
    split
    · exact Or.inr rfl
    · exact Or.inl rfl

/-- The highest of the sections so far has a place, and precedes neither what was the highest before
nor the section that is read. -/
theorem precedes_of_higher {highest : Option Section} {part top : Section}
    (ranked : ∀ before ∈ highest, before.kind.rank.isSome = true)
    (ordered : ∀ before ∈ highest, part.kind.precedes before.kind = false)
    (found : top ∈ higher highest part) :
    top.kind.rank.isSome = true ∧ top.kind.precedes part.kind = false ∧
      ∀ before ∈ highest, top.kind.precedes before.kind = false := by
  cases highest with
  | none =>
    unfold higher at found
    dsimp only at found
    split at found
    · rename_i own
      cases found
      exact ⟨own, part.kind.precedes_self, nofun⟩
    · cases found
  | some before =>
    unfold higher at found
    dsimp only at found
    split at found
    · rename_i own
      cases found
      refine ⟨Bool.not_eq_false _ ▸ fun unranked => ?_, part.kind.precedes_self, ordered⟩
      rw [SectionKind.precedes_of_unranked unranked] at own
      cases own
    · rename_i other
      cases found
      refine ⟨ranked top rfl, Bool.eq_false_iff.mpr other, ?_⟩
      rintro _ ⟨⟩
      exact top.kind.precedes_self

/-- Once a section is read there is a highest one, unless no section has had a place. -/
theorem higher_eq_none {highest : Option Section} {part : Section}
    (none : higher highest part = none) : highest = .none ∧ part.kind.rank.isSome = false := by
  cases highest with
  | none =>
    unfold higher at none
    dsimp only at none
    split at none
    · cases none
    · rename_i unranked
      exact ⟨rfl, Bool.eq_false_iff.mpr unranked⟩
  | some top =>
    unfold higher at none
    dsimp only at none
    split at none <;> cases none

theorem outOfOrder_cons_eq_nil_iff {highest : Option Section} {part : Section}
    {rest : List Section} :
    outOfOrder highest (part :: rest) = [] ↔
      (∀ top ∈ highest, part.kind.precedes top.kind = false) ∧
        outOfOrder (higher highest part) rest = [] := by
  cases highest with
  | none => exact ⟨fun nothing => ⟨nofun, nothing⟩, And.right⟩
  | some top =>
    rw [outOfOrder]
    split
    · rename_i before
      simp [before]
    · rename_i notBefore
      simp [notBefore]

/-- Nothing is out of order behind the highest section so far exactly if no section comes behind one
that it should precede. -/
theorem outOfOrder_eq_nil_iff {highest : Option Section} {sections : List Section}
    (ranked : ∀ top ∈ highest, top.kind.rank.isSome = true) :
    outOfOrder highest sections = [] ↔
      (highest.toList ++ sections).Pairwise fun earlier later =>
        later.kind.precedes earlier.kind = false := by
  induction sections generalizing highest with
  | nil => cases highest <;> simp [outOfOrder]
  | cons part rest inductionHypothesis =>
    rw [outOfOrder_cons_eq_nil_iff]
    constructor
    · rintro ⟨ordered, nothing⟩
      cases new : higher highest part with
      | none =>
        obtain ⟨rfl, unranked⟩ := higher_eq_none new
        rw [new] at nothing
        refine List.pairwise_cons.mpr ⟨fun _ _ => SectionKind.precedes_of_unranked unranked, ?_⟩
        exact (inductionHypothesis (by rintro _ ⟨⟩)).mp nothing
      | some top =>
        obtain ⟨place, notOwn, notBefore⟩ := precedes_of_higher ranked ordered new
        rw [new] at nothing
        have further := (inductionHypothesis (by rintro _ ⟨⟩; exact place)).mp nothing
        obtain ⟨behind, inRest⟩ := List.pairwise_cons.mp further
        -- What comes later does not precede the highest section, and that precedes none before it.
        have later {before other : Section} (apart : top.kind.precedes before.kind = false)
            (member : other ∈ rest) : other.kind.precedes before.kind = false :=
          SectionKind.precedes_eq_false_trans place (behind other member) apart
        refine List.pairwise_append.mpr ⟨?_, List.pairwise_cons.mpr ⟨?_, inRest⟩, ?_⟩
        · cases highest <;> simp
        · exact fun other member => later notOwn member
        · intro before isHighest other member
          have known := Option.mem_toList.mp isHighest
          rcases List.mem_cons.mp member with rfl | inRest
          · exact ordered before known
          · exact later (notBefore before known) inRest
    · intro ordered
      have behind := (List.pairwise_append.mp ordered).2.2
      have ordered' : ∀ top ∈ highest, part.kind.precedes top.kind = false := fun top found =>
        behind top (Option.mem_toList.mpr found) part List.mem_cons_self
      refine ⟨ordered', (inductionHypothesis fun top found =>
        (precedes_of_higher ranked ordered' found).1).mpr (ordered.sublist ?_)⟩
      rcases higher_eq highest part with same | same
      · rw [same]
        exact (List.sublist_cons_self part rest).append_left _
      · rw [same]
        exact List.sublist_append_right _ _

/-- Nothing is out of order exactly if no section comes behind one that it should precede. -/
theorem outOfOrder_none_eq_nil_iff {sections : List Section} :
    outOfOrder none sections = [] ↔
      sections.Pairwise fun earlier later => later.kind.precedes earlier.kind = false :=
  outOfOrder_eq_nil_iff (by rintro _ ⟨⟩)

theorem repeated_cons_eq_nil_iff {seen : List Section} {part : Section} {rest : List Section} :
    repeated seen (part :: rest) = [] ↔
      (∀ slot ∈ part.slot?, slot ∉ seen.filterMap slot?) ∧ repeated (seen ++ [part]) rest = [] := by
  rw [repeated]
  generalize repeated (seen ++ [part]) rest = more
  split
  · rename_i noSlot
    simp [noSlot]
  · rename_i slot taken
    split
    · rename_i new
      simp_all [List.find?_eq_none]
    · rename_i first found
      have known : slot ∈ seen.filterMap slot? :=
        List.mem_filterMap.mpr ⟨first, List.mem_of_find?_eq_some found,
          eq_of_beq (List.find?_some (p := fun earlier : Section => earlier.slot? == some slot) found)⟩
      exact ⟨nofun, fun ⟨new, _⟩ => absurd known (new slot taken)⟩

theorem nodup_filterMap_slot?_concat {seen : List Section} {part : Section} :
    ((seen ++ [part]).filterMap slot?).Nodup ↔
      (seen.filterMap slot?).Nodup ∧ ∀ slot ∈ part.slot?, slot ∉ seen.filterMap slot? := by
  cases taken : part.slot? with
  | none => simp [List.filterMap_append, taken]
  | some slot =>
    have last : [part].filterMap slot? = [slot] := List.filterMap_cons_some taken
    rw [List.filterMap_append, last, ← List.concat_eq_append, List.nodup_concat, and_comm]
    simp

/-- Nothing appears again behind other sections exactly if each section takes something of its
own. -/
theorem repeated_eq_nil_iff {seen sections : List Section}
    (distinct : (seen.filterMap slot?).Nodup) :
    repeated seen sections = [] ↔ ((seen ++ sections).filterMap slot?).Nodup := by
  induction sections generalizing seen with
  | nil => simp [repeated, distinct]
  | cons part rest inductionHypothesis =>
    have shifted : seen ++ part :: rest = (seen ++ [part]) ++ rest := by simp
    rw [repeated_cons_eq_nil_iff, shifted]
    constructor
    · rintro ⟨new, nothing⟩
      exact (inductionHypothesis (nodup_filterMap_slot?_concat.mpr ⟨distinct, new⟩)).mp nothing
    · intro own
      have sofar : ((seen ++ [part]).filterMap slot?).Nodup :=
        own.sublist ((List.sublist_append_left _ _).filterMap _)
      exact ⟨(nodup_filterMap_slot?_concat.mp sofar).2, (inductionHypothesis sofar).mpr own⟩

/-- Nothing appears again exactly if each section takes something of its own. -/
theorem repeated_nil_eq_nil_iff {sections : List Section} :
    repeated [] sections = [] ↔ (sections.filterMap slot?).Nodup := by
  have nothingSeen : (([] : List Section).filterMap slot?).Nodup := List.nodup_nil
  exact repeated_eq_nil_iff nothingSeen

end Section

end LlmTxt

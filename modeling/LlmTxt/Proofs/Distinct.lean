/-
This file says what is left of a list when repetitions are dropped: each item once, in the order in
which the items first stand in the list.
-/

import Mathlib.Data.List.Induction
import Mathlib.Data.List.Nodup

namespace LlmTxt

variable {Item : Type} [BEq Item] [LawfulBEq Item]

theorem eraseDups_concat (earlier : List Item) (last : Item) :
    (earlier ++ [last]).eraseDups =
      if last ∈ earlier then earlier.eraseDups else earlier.eraseDups ++ [last] := by
  have fresh : ([last].removeAll earlier).eraseDups = if last ∈ earlier then [] else [last] := by
    by_cases known : last ∈ earlier <;> simp [List.eraseDups_cons, List.removeAll, known]
  rw [List.eraseDups_append, fresh]
  split
  · exact List.append_nil _
  · rfl

/-- All items of a list are kept, none twice, in the order in which they first stand in it. -/
structure KeepsFirst (items kept : List Item) : Prop where
  once : kept.Nodup
  mem_iff : ∀ item, item ∈ kept ↔ item ∈ items
  ordered : kept.Pairwise fun earlier later => items.idxOf earlier < items.idxOf later

theorem keepsFirst_eraseDups (items : List Item) : KeepsFirst items items.eraseDups := by
  induction items using List.reverseRecOn with
  | nil => exact ⟨List.nodup_nil, fun _ => Iff.rfl, List.Pairwise.nil⟩
  | append_singleton earlier last inductionHypothesis =>
    obtain ⟨once, same, ordered⟩ := inductionHypothesis
    -- What stands in the front of a list first stands there.
    have inFront : earlier.eraseDups.Pairwise fun first second =>
        (earlier ++ [last]).idxOf first < (earlier ++ [last]).idxOf second := by
      refine ordered.imp_of_mem fun {first second} member other before => ?_
      rwa [List.idxOf_append_of_mem ((same _).mp member),
        List.idxOf_append_of_mem ((same _).mp other)]
    rw [eraseDups_concat]
    split
    · rename_i known
      refine ⟨once, fun item => ?_, inFront⟩
      rw [same, List.mem_append, List.mem_singleton]
      exact ⟨Or.inl, fun either => either.elim id fun isLast => isLast ▸ known⟩
    · rename_i new
      have newHere : last ∉ earlier.eraseDups := fun member => new ((same last).mp member)
      refine ⟨?_, fun item => ?_, ?_⟩
      · rw [← List.concat_eq_append, List.nodup_concat]
        exact ⟨newHere, once⟩
      · rw [List.mem_append, List.mem_append, same]
      · refine List.pairwise_append.mpr ⟨inFront, List.pairwise_singleton _ _, ?_⟩
        intro item member other isLast
        obtain rfl := List.mem_singleton.mp isLast
        have inEarlier := (same item).mp member
        rw [List.idxOf_append_of_mem inEarlier, List.idxOf_append_of_notMem new]
        exact Nat.lt_of_lt_of_le (List.idxOf_lt_length_of_mem inEarlier) (Nat.le_add_right _ _)

theorem nodup_eraseDups (items : List Item) : items.eraseDups.Nodup :=
  (keepsFirst_eraseDups items).once

end LlmTxt

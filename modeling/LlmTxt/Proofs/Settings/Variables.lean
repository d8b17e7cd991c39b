/-
This file shows which value a variable has once a file of variables has been read. What the
environment holds counts before the file, even where it is empty, and the file counts only for what
the environment does not hold. In the file a later line for a name takes the place of an earlier one,
so each name stands there once.
-/

import LlmTxt.Settings.Loading
import Mathlib.Data.List.Induction

namespace LlmTxt

open Text

/-! ### Names that stand once -/

section Insertion

variable {Value : Type}

theorem map_fst_insertKey (key : String) (value : Value) (pairs : List (String × Value)) :
    (insertKey key value pairs).map Prod.fst =
      if key ∈ pairs.map Prod.fst then pairs.map Prod.fst else pairs.map Prod.fst ++ [key] := by
  induction pairs with
  | nil => rfl
  | cons entry rest inductionHypothesis =>
    obtain ⟨known, old⟩ := entry
    rw [insertKey]
    by_cases same : known = key
    · rw [if_pos (by rw [same, beq_self_eq_true]), List.map_cons, List.map_cons, same,
        if_pos List.mem_cons_self]
    · have other : (known == key) = false := beq_false_of_ne same
      have member : key ∈ known :: rest.map Prod.fst ↔ key ∈ rest.map Prod.fst := by
        rw [List.mem_cons, or_iff_right (Ne.symm same)]
      rw [other, if_neg Bool.false_ne_true, List.map_cons, List.map_cons, inductionHypothesis]
      simp only [member]
      split <;> rfl

theorem nodup_insertKey {pairs : List (String × Value)} (distinct : (pairs.map Prod.fst).Nodup)
    (key : String) (value : Value) : ((insertKey key value pairs).map Prod.fst).Nodup := by
  rw [map_fst_insertKey]
  split
  · exact distinct
  · rename_i absent
    refine List.nodup_append.mpr
      ⟨distinct, List.nodup_cons.mpr ⟨List.not_mem_nil, List.nodup_nil⟩, ?_⟩
    intro name member other last same
    rw [List.mem_singleton.mp last] at same
    exact absent (same ▸ member)

theorem lookup_eq_none_of_not_mem {pairs : List (String × Value)} {name : String}
    (absent : name ∉ pairs.map Prod.fst) : pairs.lookup name = none := by
  refine List.lookup_eq_none_iff.mpr fun entry member => ?_
  refine bne_iff_ne.mpr fun same => absent ?_
  rw [same]
  exact List.mem_map_of_mem member

end Insertion

namespace Environment

variable {environment full : Environment}

/-- No two variables of a file have one name. -/
theorem nodup_resolved (environment : Environment) (lines : List VariableLine) :
    ((environment.resolved lines).map Prod.fst).Nodup := by
  unfold resolved
  induction lines using List.reverseRecOn with
  | nil => exact List.nodup_nil
  | append_singleton lines line inductionHypothesis =>
    rw [List.foldl_append, List.foldl_cons, List.foldl_nil]
    exact nodup_insertKey inductionHypothesis _ _

/-! ### What a file adds -/

/-- What is added to an environment comes behind what it holds. -/
theorem foldlM_add {entries : List (String × String)}
    (added : entries.foldlM add environment = .ok full) : full = environment ++ entries := by
  induction entries generalizing environment with
  | nil =>
    cases added
    exact (List.append_nil _).symm
  | cons entry rest inductionHypothesis =>
    rw [List.foldlM_cons, add] at added
    split at added
    · cases added
    · rw [inductionHypothesis added, List.append_assoc, List.singleton_append]

theorem withFile_eq_ok {text : List Char} (added : environment.withFile text = .ok full) :
    full = environment ++ environment.missing (unmarked text) :=
  foldlM_add added

/-- Of a variable that the environment does not hold, a file adds the value that it has there. -/
theorem lookup_missing {name : String} (notHeld : environment.lookup name = none)
    (text : List Char) :
    (environment.missing text).lookup name =
      ((environment.resolved (VariableLine.ofText (text.length + 1) text)).lookup name).join := by
  have distinct := environment.nodup_resolved (VariableLine.ofText (text.length + 1) text)
  unfold missing
  generalize environment.resolved (VariableLine.ofText (text.length + 1) text) = entries at distinct
  induction entries with
  | nil => rfl
  | cons entry rest inductionHypothesis =>
    obtain ⟨key, value?⟩ := entry
    rw [List.map_cons, List.nodup_cons] at distinct
    have further := inductionHypothesis distinct.2
    rw [List.filterMap_cons, List.lookup_cons]
    by_cases same : name = key
    · have own : (name == key) = true := beq_iff_eq.mpr same
      have others : rest.lookup name = none := lookup_eq_none_of_not_mem (same ▸ distinct.1)
      rw [others] at further
      rw [own, ← same, notHeld]
      cases value? with
      | none => exact further
      | some value => exact List.lookup_cons_self
    · have other : (name == key) = false := beq_false_of_ne same
      rw [other]
      dsimp only
      rw [← further]
      split
      · rfl
      · rename_i kept found
        split at found
        · cases found
        · obtain ⟨value, _, rfl⟩ := Option.map_eq_some_iff.mp found
          rw [List.lookup_cons, other]

end Environment

/-! ### The full environment -/

namespace Settings

/-- The bytes of the file of variables: that in the current directory, or in the nearest directory
around that has one. -/
def variableBytes? (workspace : Workspace) : Option (List UInt8) :=
  let depth := workspace.current.length
  ((List.range (depth + 1)).map fun count =>
    (⟨.root, workspace.current.take (depth - count) ++ [variableFile]⟩ : Path)).findSome?
      workspace.read?

/-- The value that a variable has in the file of variables, if that is read. -/
def inVariableFile? (workspace : Workspace) (known : Environment) (name : String) :
    Option String :=
  if readsNoFile known then none
  else
    match (variableBytes? workspace).map fileText with
    | some (.ok text) =>
      let text := Environment.unmarked text
      ((known.resolved (VariableLine.ofText (text.length + 1) text)).lookup name).join
    | _ => none

/-- A variable has the value that the environment holds, or else the one that the file of variables
has for it. -/
theorem lookup_fullEnvironment {workspace : Workspace} {known full : Environment}
    (set : fullEnvironment workspace known = .ok full) (name : String) :
    full.lookup name = (known.lookup name).or (inVariableFile? workspace known name) := by
  unfold fullEnvironment at set
  unfold inVariableFile?
  dsimp only at set
  split at set
  · rename_i unread
    cases set
    rw [if_pos unread, Option.or_none]
  · rename_i isRead
    rw [if_neg isRead]
    cases found : variableBytes? workspace with
    | none =>
      unfold variableBytes? at found
      rw [found] at set
      cases set
      exact (Option.or_none).symm
    | some bytes =>
      unfold variableBytes? at found
      rw [found] at set
      dsimp only [Option.map_some] at set ⊢
      cases decoded : fileText bytes with
      | error failure =>
        rw [decoded] at set
        cases set
      | ok text =>
        rw [decoded] at set
        dsimp only at set
        cases added : known.withFile text with
        | error refusal =>
          rw [added] at set
          cases set
        | ok more =>
          rw [added] at set
          cases set
          rw [Environment.withFile_eq_ok added, List.lookup_append]
          cases held : known.lookup name with
          | some value => rfl
          | none => rw [Environment.lookup_missing held]

end Settings

end LlmTxt

/-
This file shows which references are documented without fail: the names of the symbols of a module,
behind the name of that module. Adding names for one module takes none away from another, so every
symbol of either table is known in the end. Whether the reference is itself the name of a module is
of no account, for then it is documented too.
-/

import LlmTxt.Example.Resolution
import LlmTxt.Proofs.Name
import Mathlib.Data.List.Induction

namespace LlmTxt.Documented

/-! ### Names that are known -/

/-- Names are known for a module. -/
def HasNames (known : List (List Char × List (List Char))) (module : List Char)
    (names : List (List Char)) : Prop :=
  ∃ all, known.lookup module = some all ∧ names ⊆ all

variable {known : List (List Char × List (List Char))}

theorem hasNames_addNames (known : List (List Char × List (List Char))) (module : List Char)
    (names : List (List Char)) : HasNames (addNames module names known) module names := by
  induction known with
  | nil => exact ⟨names, List.lookup_cons_self, List.Subset.refl names⟩
  | cons entry rest inductionHypothesis =>
    obtain ⟨other, others⟩ := entry
    rw [addNames]
    by_cases same : other = module
    · rw [if_pos same, same]
      exact ⟨others ++ names, List.lookup_cons_self, List.subset_append_right _ _⟩
    · rw [if_neg same]
      have different : (module == other) = false := beq_false_of_ne (Ne.symm same)
      obtain ⟨all, found, within⟩ := inductionHypothesis
      exact ⟨all, by rw [List.lookup_cons, different]; exact found, within⟩

/-- Adding names takes none away. -/
theorem HasNames.addNames {module : List Char} {names : List (List Char)}
    (hasNames : HasNames known module names) (other : List Char) (more : List (List Char)) :
    HasNames (addNames other more known) module names := by
  obtain ⟨all, found, within⟩ := hasNames
  induction known with
  | nil => cases found
  | cons entry rest inductionHypothesis =>
    obtain ⟨first, others⟩ := entry
    rw [Documented.addNames]
    by_cases own : module = first
    · rw [own, List.lookup_cons_self] at found
      cases found
      by_cases same : first = other
      · rw [if_pos same, own]
        exact ⟨all ++ more, List.lookup_cons_self, fun _ member =>
          List.mem_append_left _ (within member)⟩
      · rw [if_neg same, own]
        exact ⟨all, List.lookup_cons_self, within⟩
    · have different : (module == first) = false := beq_false_of_ne own
      rw [List.lookup_cons, different] at found
      obtain ⟨all, later, inside⟩ := inductionHypothesis found
      split
      · exact ⟨_, by rw [List.lookup_cons, different]; exact found, within⟩
      · exact ⟨all, by rw [List.lookup_cons, different]; exact later, inside⟩

/-- The names of the symbols of a module are known if one of the tables has the module. -/
theorem hasNames_ofTables {index sections : SymbolTable} {entry : String × List SymbolEntry}
    (member : entry ∈ index.modules ++ sections.modules) :
    HasNames (ofTables index sections).modules entry.1.toList (entry.2.flatMap namesOf) := by
  unfold ofTables
  dsimp only
  obtain ⟨before, after, split⟩ := List.append_of_mem member
  rw [split, List.foldl_append, List.foldl_cons]
  generalize before.foldl _ [] = earlier
  clear split
  induction after using List.reverseRecOn with
  | nil => exact hasNames_addNames earlier _ _
  | append_singleton front last inductionHypothesis =>
    rw [List.foldl_append, List.foldl_cons, List.foldl_nil]
    exact inductionHypothesis.addNames _ _

/-! ### References that are documented -/

/-- A symbol of a documented module is documented. -/
theorem resolves_of_hasNames {documented : Documented} {module name : List Char}
    {names : List (List Char)} (hasNames : HasNames documented.modules module names)
    (identifier : Name.isIdentifier name = true) (member : name ∈ names) :
    documented.resolves (module ++ '.' :: name) = true := by
  obtain ⟨all, found, within⟩ := hasNames
  have parts : Name.segments (module ++ '.' :: name) = Name.segments module ++ [name] :=
    Name.segments_append_dot identifier module
  obtain ⟨count, length⟩ : ∃ count, (Name.segments module).length = count + 1 :=
    Nat.exists_eq_succ_of_ne_zero (by simp [Name.segments, Text.splitAt_ne_nil])
  have known : documented.isKnown module = true := by
    unfold isKnown symbolsOf?
    rw [found]
    rfl
  have symbol : documented.hasSymbol module name = true := by
    unfold hasSymbol symbolsOf?
    rw [found]
    simpa using within member
  have behindModule : documented.resolvesFrom (Name.segments module ++ [name]) (count + 1) =
      true := by
    rw [resolvesFrom, ← length, List.take_left, List.drop_left, Name.join_segments]
    dsimp only
    rw [if_pos known, symbol]
  unfold resolves
  dsimp only
  rw [parts, List.length_append, length, List.length_singleton, resolvesFrom, behindModule,
    List.drop_of_length_le (by simp [length])]
  exact ite_self true

end LlmTxt.Documented

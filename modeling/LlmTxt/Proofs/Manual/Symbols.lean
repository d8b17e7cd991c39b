/-
This file says what the symbols of a manual are like. The Index lists the same symbols as the module
section, only ordered by kind. No two symbols of a module have one name, because the name of a
method begins with that of its class and a dot, and an identifier holds no dot.
-/

import LlmTxt.Proofs.Manual.Text
import Mathlib.Data.List.Perm.Lattice

namespace LlmTxt.Manual

open Text

/-! ### Ordering by kind -/

/-- Items that are collected key by key are the same items, if their keys are all there. -/
theorem flatMap_filter_perm {Item Key : Type} [BEq Key] [LawfulBEq Key] (key : Item → Key)
    {keys : List Key} (distinct : keys.Nodup) {items : List Item}
    (known : ∀ item ∈ items, key item ∈ keys) :
    (keys.flatMap fun own => items.filter fun item => key item == own).Perm items := by
  induction keys generalizing items with
  | nil =>
    have empty : items = [] := List.eq_nil_iff_forall_not_mem.mpr fun item member =>
      List.not_mem_nil (known item member)
    rw [empty]
    exact List.Perm.refl []
  | cons own rest inductionHypothesis =>
    obtain ⟨new, restDistinct⟩ := List.nodup_cons.mp distinct
    have others : ∀ item ∈ items.filter (fun item => !(key item == own)), key item ∈ rest := by
      intro item member
      obtain ⟨inItems, different⟩ := List.mem_filter.mp member
      refine (List.mem_cons.mp (known item inItems)).resolve_left fun same => ?_
      rw [same, beq_self_eq_true] at different
      cases different
    have unaffected : (rest.flatMap fun other => items.filter fun item => key item == other) =
        rest.flatMap fun other =>
          (items.filter fun item => !(key item == own)).filter fun item => key item == other := by
      refine List.flatMap_congr fun other member => ?_
      rw [List.filter_filter]
      refine List.filter_congr fun item _ => ?_
      by_cases same : key item = other
      · have different : key item ≠ own := fun equal => new (equal ▸ same ▸ member)
        simp [same, same ▸ different]
      · simp [same]
    rw [List.flatMap_cons, unaffected]
    exact ((inductionHypothesis restDistinct others).append_left _).trans
      (List.filter_append_perm _ items)

theorem Module.kind_mem (module : Module) :
    ∀ symbol ∈ module.symbols, symbol.kind ∈ categories.map (·.1) := by
  intro symbol member
  obtain ⟨object, _, inObject⟩ := List.mem_flatMap.mp member
  rcases List.mem_cons.mp inObject with rfl | inMethods
  · cases object <;> simp [categories, Object.kind]
  · obtain ⟨method, _, rfl⟩ := List.mem_map.mp inMethods
    simp [categories]

/-- The Index lists the symbols that the module section declares. -/
theorem Module.listed_perm (module : Module) : module.listed.Perm module.symbols := by
  have ordered := flatMap_filter_perm Symbol.kind (by decide : (categories.map (·.1)).Nodup)
    module.kind_mem
  rwa [List.flatMap_map] at ordered

/-! ### Names -/

theorem takeWhile_symbol {object : Object} {symbol : Symbol} (member : symbol ∈ object.symbols) :
    symbol.name.takeWhile (· != '.') = object.itself.name := by
  have noDot : ∀ character ∈ object.itself.name, (character != '.') = true := by
    intro character inName
    have word := Name.isWord_of_isIdentifier object.itself.identifier character inName
    exact bne_iff_ne.mpr (ne_of_isWord word (by decide))
  rcases List.mem_cons.mp member with rfl | inMethods
  · show object.itself.name.takeWhile (· != '.') = object.itself.name
    rw [← List.append_nil object.itself.name, List.takeWhile_append_of_pos noDot]
    rfl
  · obtain ⟨method, _, rfl⟩ := List.mem_map.mp inMethods
    dsimp only
    rw [List.takeWhile_append_of_pos noDot, List.takeWhile_cons_of_neg (by decide),
      List.append_nil]

theorem Object.nodup_symbols {object : Object}
    (distinct : (object.methods.map (·.name)).Nodup) : (object.symbols.map (·.name)).Nodup := by
  unfold Object.symbols
  rw [List.map_cons, List.map_map, List.nodup_cons]
  constructor
  · intro member
    obtain ⟨method, _, same⟩ := List.mem_map.mp member
    have noDot : '.' ∉ object.itself.name :=
      Name.not_mem_of_isIdentifier object.itself.identifier (by decide)
    have dotted : object.itself.name ++ '.' :: method.name = object.itself.name := same
    rw [← dotted] at noDot
    exact noDot (by simp)
  · have prefixed : object.methods.map (fun method => object.itself.name ++ '.' :: method.name) =
        (object.methods.map (·.name)).map (fun name => object.itself.name ++ '.' :: name) := by
      rw [List.map_map]
      rfl
    have injective : Function.Injective fun name => object.itself.name ++ '.' :: name := by
      intro first second same
      exact (List.cons.inj (List.append_cancel_left same)).2
    exact prefixed ▸ distinct.map injective

/-- No two symbols of a module have one name. -/
theorem Module.nodup_symbols (module : Module) : (module.symbols.map (·.name)).Nodup := by
  unfold Module.symbols
  rw [List.map_flatMap, List.nodup_flatMap]
  refine ⟨fun object member => Object.nodup_symbols (module.methods_nodup object member), ?_⟩
  refine (List.pairwise_map.mp module.objects_nodup).imp fun {first second} different => ?_
  intro name inFirst inSecond
  obtain ⟨one, oneThere, rfl⟩ := List.mem_map.mp inFirst
  obtain ⟨other, otherThere, same⟩ := List.mem_map.mp inSecond
  refine different ?_
  rw [← takeWhile_symbol oneThere, ← takeWhile_symbol otherThere, same]

/-! ### The two tables -/

theorem nodup_moduleNames (manual : Manual) :
    (manual.modules.map fun module => String.ofList module.name).Nodup := by
  have names : (manual.modules.map fun module => String.ofList module.name) =
      (manual.modules.map (·.name)).map String.ofList := by
    rw [List.map_map]
    rfl
  rw [names]
  exact manual.modules_nodup.map fun _ _ same => String.ofList_injective same

theorem Module.nodup_listed (module : Module) :
    ((module.listed.map (·.declared module.name)).map (·.name)).Nodup := by
  have names : (module.listed.map (·.declared module.name)).map (·.name) =
      (module.listed.map (·.name)).map String.ofList := by
    rw [List.map_map, List.map_map]
    rfl
  rw [names]
  refine List.Nodup.map (fun _ _ same => String.ofList_injective same) ?_
  exact (module.listed_perm.map (·.name)).nodup_iff.mpr module.nodup_symbols

variable {manual : Manual} {index sections : SymbolTable}

theorem names_declared (table : SymbolTable) :
    table.modules.map (·.1) = table.declared.map (·.1) := by
  unfold SymbolTable.declared
  rw [List.map_map]
  rfl

/-- Tables that hold what a manual lists and what it documents agree. -/
theorem isConsistent (inIndex : index.declared = manual.listed)
    (inSections : sections.declared = manual.documented) : index.IsConsistent sections := by
  constructor
  · intro name
    rw [names_declared, names_declared, inIndex, inSections, listed, documented, List.map_map,
      List.map_map]
    exact Iff.rfl
  · intro name symbols others inTable inOther
    have own : (name, symbols.map SymbolEntry.declared) ∈ manual.listed :=
      inIndex ▸ List.mem_map_of_mem inTable
    have other : (name, others.map SymbolEntry.declared) ∈ manual.documented :=
      inSections ▸ List.mem_map_of_mem inOther
    obtain ⟨module, known, entry⟩ := List.mem_map.mp own
    obtain ⟨counterpart, alsoKnown, otherEntry⟩ := List.mem_map.mp other
    obtain ⟨moduleName, declared⟩ := Prod.mk.inj entry
    obtain ⟨otherName, otherDeclared⟩ := Prod.mk.inj otherEntry
    have same : counterpart = module := by
      refine List.inj_on_of_nodup_map manual.modules_nodup alsoKnown known ?_
      exact String.ofList_injective (otherName.trans moduleName.symm)
    refine ⟨?_, ?_⟩
    · rw [← declared, ← otherDeclared, same]
      exact module.listed_perm.map _
    · have names : symbols.map (·.name) = (symbols.map SymbolEntry.declared).map (·.name) := by
        rw [List.map_map]
        rfl
      rw [names, ← declared]
      exact module.nodup_listed

end LlmTxt.Manual

/-
This file compares symbol tables that declare the same: the same modules, and in each the same kinds
with the same names, none of them twice. Between such tables no module and no name is left over on
either side, and nothing is repeated, so only kinds can be in conflict. They are compared at the first
place of a name in each table. Where a name has one kind, that is the same kind in both tables,
wherever the name stands. Where it has several, the order of the symbols says which of them is
compared.
-/

import LlmTxt.Proofs.CrossReference.Difference

namespace LlmTxt.SymbolTable

/-- Two tables declare the same: they name the same modules, a module has the same kinds with the
same names in both, and no table has a kind and name twice in a module. -/
structure DeclareAlike (index sections : SymbolTable) : Prop where
  modules : index.moduleNames = sections.moduleNames
  keys : ∀ module ∈ index.moduleNames, index.keys module = sections.keys module
  listedOnce : ∀ module ∈ index.moduleNames,
    ((index.symbolsOf module).map fun symbol => (symbol.kind, symbol.name)).Nodup
  documentedOnce : ∀ module ∈ sections.moduleNames,
    ((sections.symbolsOf module).map fun symbol => (symbol.kind, symbol.name)).Nodup

/-- A name has one kind in each module of a table. -/
def HasOneKindPerName (table : SymbolTable) : Prop :=
  ∀ module ∈ table.moduleNames, ∀ key ∈ table.keys module, ∀ other ∈ table.keys module,
    key.2 = other.2 → key.1 = other.1

/-- A name stands in a module with different kinds, both known, at its first place in either
table. -/
structure FirstKindsConflict (index sections : SymbolTable) (module : String)
    (listed documented : SymbolEntry) : Prop where
  listed_first : index.first? module listed.name = some listed
  documented_first : sections.first? module listed.name = some documented
  conflict : listed.kind ≠ documented.kind ∧ listed.kind ≠ .unknown ∧ documented.kind ≠ .unknown

variable {table index sections : SymbolTable}

/-! ### Names and kinds of a module -/

theorem key_mem_keys {module name : String} {symbol : SymbolEntry}
    (first : table.first? module name = some symbol) : (symbol.kind, name) ∈ table.keys module := by
  rw [← name_of_find? first, keys, List.mem_toFinset]
  exact List.mem_map_of_mem (List.mem_of_find?_eq_some first)

theorem mem_names {module name : String} {symbol : SymbolEntry}
    (first : table.first? module name = some symbol) : name ∈ table.names module := by
  rw [← name_of_find? first, names, List.mem_toFinset]
  exact List.mem_map_of_mem (List.mem_of_find?_eq_some first)

theorem mem_moduleNames {module name : String} {symbol : SymbolEntry}
    (first : table.first? module name = some symbol) : module ∈ table.moduleNames := by
  rw [mem_moduleNames_iff, contains]
  unfold first? symbolsOf at first
  cases known : table.get? module with
  | none =>
    rw [known] at first
    cases first
  | some symbols => rfl

theorem exists_first? {module : String} {key : SymbolKind × String}
    (member : key ∈ table.keys module) : ∃ symbol, table.first? module key.2 = some symbol := by
  rw [keys, List.mem_toFinset] at member
  obtain ⟨symbol, inModule, rfl⟩ := List.mem_map.mp member
  exact Option.isSome_iff_exists.mp
    (List.find?_isSome.mpr ⟨symbol, inModule, beq_self_eq_true symbol.name⟩)

/-- Nothing is repeated in a module that has each kind and name once. -/
theorem repetitions_eq_nil {module : String}
    (once : ((table.symbolsOf module).map fun symbol => (symbol.kind, symbol.name)).Nodup)
    (key : SymbolKind × String) : table.repetitions module key = [] := by
  have own : ((table.occurrences module key).map fun symbol => (symbol.kind, symbol.name)).Nodup :=
    once.sublist (List.filter_sublist.map _)
  unfold repetitions
  split
  · rfl
  · rename_i first later found
    cases later with
    | nil => rfl
    | cons second rest =>
      have same (symbol : SymbolEntry) (member : symbol ∈ first :: second :: rest) :
          (symbol.kind, symbol.name) = key := by
        rw [← found] at member
        exact eq_of_beq (List.mem_filter.mp member).2
      rw [found, List.map_cons, List.map_cons, same first (by simp), same second (by simp)] at own
      exact absurd List.mem_cons_self (List.nodup_cons.mp own).1

/-! ### Tables that declare the same -/

variable (alike : index.DeclareAlike sections)

include alike

/-- A name of a module is in both tables or in neither. -/
theorem DeclareAlike.isSome_first? {module : String} (known : module ∈ index.moduleNames)
    (name : String) :
    (index.first? module name).isSome = (sections.first? module name).isSome := by
  rw [Bool.eq_iff_iff, Option.isSome_iff_exists, Option.isSome_iff_exists]
  constructor
  · rintro ⟨listed, first⟩
    exact exists_first? (alike.keys module known ▸ key_mem_keys first)
  · rintro ⟨documented, first⟩
    exact exists_first? ((alike.keys module known).symm ▸ key_mem_keys first)

/-- What is said about a name is that its first kinds are in conflict. -/
theorem DeclareAlike.mem_nameDifference_iff {module : String}
    (known : module ∈ index.moduleNames) {name : String} {diagnostic : Diagnostic} :
    diagnostic ∈ index.nameDifference sections module name ↔
      ∃ listed documented, listed.name = name ∧
        index.FirstKindsConflict sections module listed documented ∧
        diagnostic = (Mismatch.kinds listed documented module).diagnostic := by
  have both := alike.isSome_first? known name
  unfold nameDifference
  constructor
  · intro member
    split at member
    · cases member
    · rename_i listedFirst documentedFirst
      rw [listedFirst, documentedFirst] at both
      cases both
    · rename_i listedFirst documentedFirst
      rw [listedFirst, documentedFirst] at both
      cases both
    · rename_i listed documented listedFirst documentedFirst
      have named := name_of_find? listedFirst
      split at member
      · rename_i conflict
        refine ⟨listed, documented, named, ⟨?_, ?_, conflict⟩, List.mem_singleton.mp member⟩
        · rwa [named]
        · rwa [named]
      · cases member
  · rintro ⟨listed, documented, rfl, conflicting, rfl⟩
    rw [conflicting.listed_first, conflicting.documented_first]
    dsimp only
    rw [if_pos conflicting.conflict]
    exact List.mem_singleton.mpr rfl

/-- What is to be reported between tables that declare the same are names with different kinds. -/
theorem DeclareAlike.difference_eq :
    index.difference sections =
      ∑ module ∈ index.moduleNames, ∑ name ∈ index.names module ∪ sections.names module,
        (index.nameDifference sections module name : Multiset Diagnostic) := by
  have listed : ∑ module ∈ index.moduleNames, ∑ key ∈ index.keys module,
      (index.repetitions module key : Multiset Diagnostic) = 0 :=
    Finset.sum_eq_zero fun module known => Finset.sum_eq_zero fun key _ => by
      rw [repetitions_eq_nil (alike.listedOnce module known) key, Multiset.coe_nil]
  have documented : ∑ module ∈ sections.moduleNames, ∑ key ∈ sections.keys module,
      (sections.repetitions module key : Multiset Diagnostic) = 0 :=
    Finset.sum_eq_zero fun module known => Finset.sum_eq_zero fun key _ => by
      rw [repetitions_eq_nil (alike.documentedOnce module known) key, Multiset.coe_nil]
  unfold difference
  rw [listed, documented, ← alike.modules, Finset.inter_self, Finset.sdiff_self,
    Finset.sum_empty, Finset.sum_empty, zero_add, zero_add, add_zero, add_zero]

omit alike

/-- Between tables that declare the same, all that is reported are names whose first kinds are in
conflict. Nothing is reported, in whatever order the symbols stand, where each name has one kind in
its module. -/
theorem first_kinds_are_compared (listed : index.IsKeyed) (documented : sections.IsKeyed)
    (alike : index.DeclareAlike sections) :
    (∀ diagnostic, diagnostic ∈ index.resolve sections ↔
      ∃ module listed documented, index.FirstKindsConflict sections module listed documented ∧
        diagnostic = (Mismatch.kinds listed documented module).diagnostic) ∧
      (index.HasOneKindPerName → index.resolve sections = []) := by
  have reported (diagnostic : Diagnostic) : diagnostic ∈ index.resolve sections ↔
      ∃ module listed documented, index.FirstKindsConflict sections module listed documented ∧
        diagnostic = (Mismatch.kinds listed documented module).diagnostic := by
    rw [← Multiset.mem_coe, coe_resolve listed documented, alike.difference_eq, Multiset.mem_sum]
    simp only [Multiset.mem_sum, Multiset.mem_coe]
    constructor
    · rintro ⟨module, known, name, _, member⟩
      obtain ⟨first, second, _, conflicting, said⟩ :=
        (alike.mem_nameDifference_iff known).mp member
      exact ⟨module, first, second, conflicting, said⟩
    · rintro ⟨module, first, second, conflicting, said⟩
      have known := mem_moduleNames conflicting.listed_first
      exact ⟨module, known, first.name,
        Finset.mem_union_left _ (mem_names conflicting.listed_first),
        (alike.mem_nameDifference_iff known).mpr ⟨first, second, rfl, conflicting, said⟩⟩
  refine ⟨reported, fun oneKind => List.eq_nil_iff_forall_not_mem.mpr fun diagnostic member => ?_⟩
  obtain ⟨module, first, second, conflicting, _⟩ := (reported diagnostic).mp member
  have known := mem_moduleNames conflicting.listed_first
  have documentedKey : (second.kind, first.name) ∈ index.keys module :=
    (alike.keys module known).symm ▸ key_mem_keys conflicting.documented_first
  exact conflicting.conflict.1
    (oneKind module known _ (key_mem_keys conflicting.listed_first) _ documentedKey rfl)

/-- A table of one module. -/
def leverTable (source : TableSource) (symbols : List SymbolEntry) : SymbolTable :=
  ⟨source, [("lever", symbols)], [("lever", .line 2)]⟩

/-- A class, a function of the same name, and another function. -/
def leverArm : SymbolEntry := ⟨"lever", .class_, "Arm", none, .line 3⟩
def leverArmMaker : SymbolEntry := ⟨"lever", .function, "Arm", none, .line 4⟩
def leverPull : SymbolEntry := ⟨"lever", .function, "pull", none, .line 5⟩

theorem first_kinds_are_compared_reordered :
    (leverTable .index [leverArm, leverPull]).IsKeyed ∧
      (leverTable .moduleSections [leverPull, leverArm]).IsKeyed ∧
      (leverTable .index [leverArm, leverPull]).DeclareAlike
        (leverTable .moduleSections [leverPull, leverArm]) ∧
      (leverTable .index [leverArm, leverPull]).HasOneKindPerName ∧
      (leverTable .index [leverArm, leverPull]).resolve
        (leverTable .moduleSections [leverPull, leverArm]) = [] := by
  have listed : (leverTable .index [leverArm, leverPull]).IsKeyed := by unfold IsKeyed; decide
  have documented : (leverTable .moduleSections [leverPull, leverArm]).IsKeyed := by
    unfold IsKeyed; decide
  have alike : (leverTable .index [leverArm, leverPull]).DeclareAlike
      (leverTable .moduleSections [leverPull, leverArm]) :=
    ⟨by decide, by decide, by decide, by decide⟩
  have oneKind : (leverTable .index [leverArm, leverPull]).HasOneKindPerName := by
    unfold HasOneKindPerName; decide
  exact ⟨listed, documented, alike, oneKind,
    (first_kinds_are_compared listed documented alike).2 oneKind⟩

/-- Tables that declare the same need not be free of reports: a class and a function of one name
that stand in another order are reported as a conflict of kinds. -/
theorem reordered_kinds_are_reported :
    (leverTable .index [leverArm, leverArmMaker]).IsKeyed ∧
      (leverTable .moduleSections [leverArmMaker, leverArm]).IsKeyed ∧
      (leverTable .index [leverArm, leverArmMaker]).DeclareAlike
        (leverTable .moduleSections [leverArmMaker, leverArm]) ∧
      ((leverTable .index [leverArm, leverArmMaker]).resolve
        (leverTable .moduleSections [leverArmMaker, leverArm])).map (·.code) =
          ["KindMismatch"] := by
  refine ⟨by unfold IsKeyed; decide, by unfold IsKeyed; decide, ⟨?_, ?_, ?_, ?_⟩, rfl⟩
  all_goals decide

end LlmTxt.SymbolTable

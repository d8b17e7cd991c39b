/-
This file says when two symbol tables agree, so that nothing is reported between them: if they
name the same modules, and in each module the same symbols with the same kinds, and no table has a
name twice. Where the symbols stand does not matter for this, nor does their order.
-/

import LlmTxt.CrossReference
import Mathlib.Data.List.Induction
import Mathlib.Data.List.Nodup
import Mathlib.Data.List.Perm.Basic

namespace LlmTxt

/-! ### Symbols apart from their places -/

/-- A symbol apart from where it stands in a document. -/
structure Declared where
  module : String
  kind : SymbolKind
  name : String
  signature : Option String
deriving DecidableEq, Repr

def SymbolEntry.declared (symbol : SymbolEntry) : Declared :=
  ⟨symbol.module, symbol.kind, symbol.name, symbol.signature⟩

namespace SymbolTable

/-- The modules of a table with their symbols, apart from where these stand. -/
def declared (table : SymbolTable) : List (String × List Declared) :=
  table.modules.map fun entry => (entry.1, entry.2.map SymbolEntry.declared)

/-! ### Building a table -/

/-- Adding a module gives a table its name, unless it has it. -/
theorem map_fst_addSymbols (module : String) (symbols : List SymbolEntry)
    (known : List (String × List SymbolEntry)) :
    (addSymbols module symbols known).map (·.1) =
      if module ∈ known.map (·.1) then known.map (·.1) else known.map (·.1) ++ [module] := by
  fun_induction addSymbols module symbols known with
  | case1 => rfl
  | case2 others rest => simp
  | case3 name others rest different inductionHypothesis =>
    rw [List.map_cons, inductionHypothesis]
    simp only [List.map_cons, List.mem_cons, Ne.symm different, false_or]
    split <;> rfl

/-- Tables that are built by adding modules name those and no others. -/
theorem mem_map_fst_foldl_add {Item : Type} (name : Item → String) (span : Item → Span)
    (symbols : Item → List SymbolEntry) (items : List Item) (table : SymbolTable)
    {module : String} :
    module ∈ (items.foldl (fun table item =>
        table.add (name item) (span item) (symbols item)) table).modules.map (·.1) ↔
      module ∈ table.modules.map (·.1) ∨ module ∈ items.map name := by
  induction items generalizing table with
  | nil => simp
  | cons item rest inductionHypothesis =>
    have added : (table.add (name item) (span item) (symbols item)).modules.map (·.1) = _ :=
      map_fst_addSymbols (name item) (symbols item) table.modules
    rw [List.foldl_cons, inductionHypothesis, added, List.map_cons, List.mem_cons]
    split
    · rename_i known
      constructor
      · rintro (there | later)
        · exact Or.inl there
        · exact Or.inr (Or.inr later)
      · rintro (there | rfl | later)
        · exact Or.inl there
        · exact Or.inl known
        · exact Or.inr later
    · rw [List.mem_append, List.mem_singleton, or_assoc]

theorem addSymbols_of_new {module : String} {known : List (String × List SymbolEntry)}
    (new : module ∉ known.map (·.1)) (symbols : List SymbolEntry) :
    addSymbols module symbols known = known ++ [(module, symbols)] := by
  induction known with
  | nil => rfl
  | cons entry rest inductionHypothesis =>
    obtain ⟨name, others⟩ := entry
    rw [List.map_cons, List.mem_cons, not_or] at new
    rw [addSymbols, if_neg (Ne.symm new.1), inductionHypothesis new.2]
    rfl

/-- A table that is built from distinct modules holds each with its symbols. -/
theorem modules_foldl_add {Item : Type} (name : Item → String) (span : Item → Span)
    (symbols : Item → List SymbolEntry) {items : List Item} {table : SymbolTable}
    (distinct : (table.modules.map (·.1) ++ items.map name).Nodup) :
    (items.foldl (fun table item => table.add (name item) (span item) (symbols item))
        table).modules = table.modules ++ items.map fun item => (name item, symbols item) := by
  induction items generalizing table with
  | nil => simp
  | cons item rest inductionHypothesis =>
    have new : name item ∉ table.modules.map (·.1) := by
      intro known
      exact (List.nodup_append.mp distinct).2.2 (name item) known (name item)
        List.mem_cons_self rfl
    have added : (table.add (name item) (span item) (symbols item)).modules =
        table.modules ++ [(name item, symbols item)] := addSymbols_of_new new _
    have further : ((table.add (name item) (span item) (symbols item)).modules.map (·.1) ++
        rest.map name).Nodup := by
      rw [added]
      simpa using distinct
    rw [List.foldl_cons, inductionHypothesis further, added, List.append_assoc]
    rfl

/-! ### Symbols that are named once -/

theorem repeatedSymbols_eq_nil {seen symbols : List SymbolEntry}
    (distinct : ((seen ++ symbols).map (·.name)).Nodup) : repeatedSymbols seen symbols = [] := by
  induction symbols generalizing seen with
  | nil => rfl
  | cons symbol rest inductionHypothesis =>
    have none : (seen.find? fun earlier =>
        earlier.kind == symbol.kind && earlier.name == symbol.name) = none := by
      refine List.find?_eq_none.mpr fun earlier member same => ?_
      rw [List.map_append] at distinct
      have sameName : earlier.name = symbol.name := by
        simpa using (Bool.and_eq_true_iff.mp same).2
      exact (List.nodup_append.mp distinct).2.2 _ (List.mem_map_of_mem member) _
        (List.mem_map_of_mem List.mem_cons_self) sameName
    rw [repeatedSymbols, none]
    refine inductionHypothesis ?_
    rwa [List.append_assoc, List.singleton_append]

theorem firstByName_of_nodup {symbols : List SymbolEntry}
    (distinct : (symbols.map (·.name)).Nodup) : firstByName symbols = symbols := by
  induction symbols using List.reverseRecOn with
  | nil => rfl
  | append_singleton front last inductionHypothesis =>
    rw [List.map_append] at distinct
    obtain ⟨frontDistinct, _, apart⟩ := List.nodup_append.mp distinct
    have new : (front.any fun known => known.name == last.name) = false := by
      refine List.any_eq_false.mpr fun known member same => ?_
      exact apart _ (List.mem_map_of_mem member) _ (List.mem_map_of_mem (List.mem_singleton_self _))
        (eq_of_beq same)
    have kept := inductionHypothesis frontDistinct
    unfold firstByName at kept ⊢
    rw [List.foldl_append, kept, List.foldl_cons, List.foldl_nil, new]
    rfl

/-! ### Modules that agree -/

/-- Two lists of symbols hold the same symbols, and neither has a name twice. -/
structure Agree (listed documented : List SymbolEntry) : Prop where
  perm : (listed.map SymbolEntry.declared).Perm (documented.map SymbolEntry.declared)
  distinct : (listed.map (·.name)).Nodup

variable {listed documented : List SymbolEntry}

theorem Agree.symm (agree : Agree listed documented) : Agree documented listed := by
  refine ⟨agree.perm.symm, ?_⟩
  have names (symbols : List SymbolEntry) :
      symbols.map (·.name) = (symbols.map SymbolEntry.declared).map (·.name) := by
    rw [List.map_map]
    rfl
  rw [names]
  exact (agree.perm.map (·.name)).nodup_iff.mp (names listed ▸ agree.distinct)

theorem Agree.exists_same (agree : Agree listed documented) {symbol : SymbolEntry}
    (member : symbol ∈ listed) :
    ∃ counterpart ∈ documented,
      counterpart.name = symbol.name ∧ counterpart.kind = symbol.kind := by
  have declared : symbol.declared ∈ documented.map SymbolEntry.declared :=
    agree.perm.mem_iff.mp (List.mem_map_of_mem member)
  obtain ⟨counterpart, there, same⟩ := List.mem_map.mp declared
  exact ⟨counterpart, there, congrArg Declared.name same, congrArg Declared.kind same⟩

/-- Nothing is reported between lists of symbols that agree. -/
theorem Agree.compareModule_eq_nil (agree : Agree listed documented) (module : String) :
    compareModule module listed documented = [] := by
  unfold compareModule
  dsimp only
  rw [firstByName_of_nodup agree.distinct, firstByName_of_nodup agree.symm.distinct,
    List.append_eq_nil_iff]
  constructor
  · refine List.filterMap_eq_nil_iff.mpr fun symbol member => ?_
    obtain ⟨counterpart, there, name, kind⟩ := agree.exists_same member
    cases found : documented.find? (·.name == symbol.name) with
    | none =>
      have different := List.find?_eq_none.mp found counterpart there
      exact absurd (beq_iff_eq.mpr name) different
    | some other =>
      have sameName : other.name = symbol.name := by
        simpa using List.find?_some found
      have same : other = counterpart :=
        List.inj_on_of_nodup_map agree.symm.distinct (List.mem_of_find?_eq_some found) there
          (sameName.trans name.symm)
      have noConflict : kindsConflict symbol.kind other.kind = false := by
        rw [same, kind]
        simp [kindsConflict]
      dsimp only
      rw [noConflict]
      rfl
  · refine List.filterMap_eq_nil_iff.mpr fun symbol member => ?_
    obtain ⟨counterpart, there, name, _⟩ := agree.symm.exists_same member
    exact if_pos (List.any_eq_true.mpr ⟨counterpart, there, by simpa using name⟩)

/-! ### Tables that agree -/

/-- Two tables hold the same modules, with symbols that agree. -/
structure IsConsistent (index sections : SymbolTable) : Prop where
  same_modules : ∀ module, module ∈ index.modules.map (·.1) ↔ module ∈ sections.modules.map (·.1)
  agree : ∀ module listed documented, (module, listed) ∈ index.modules →
    (module, documented) ∈ sections.modules → Agree listed documented

variable {index sections : SymbolTable}

theorem mem_of_lookup {Value : Type} {key : String} {value : Value}
    {pairs : List (String × Value)} (found : pairs.lookup key = some value) :
    (key, value) ∈ pairs := by
  obtain ⟨before, after, split, _⟩ := List.lookup_eq_some_iff.mp found
  rw [split]
  simp

theorem exists_get? {table : SymbolTable} {module : String}
    (known : module ∈ table.modules.map (·.1)) : ∃ symbols, table.get? module = some symbols := by
  obtain ⟨entry, member, rfl⟩ := List.mem_map.mp known
  exact Option.isSome_iff_exists.mp (List.lookup_isSome_iff.mpr ⟨entry, member, by simp⟩)

theorem contains_iff {table : SymbolTable} {module : String} :
    table.contains module = true ↔ module ∈ table.modules.map (·.1) := by
  constructor
  · intro known
    obtain ⟨symbols, found⟩ := Option.isSome_iff_exists.mp known
    exact List.mem_map_of_mem (mem_of_lookup found)
  · intro known
    exact Option.isSome_iff_exists.mpr (exists_get? known)

theorem duplicates_eq_nil {table : SymbolTable}
    (distinct : ∀ entry ∈ table.modules, (entry.2.map (·.name)).Nodup) : table.duplicates = [] := by
  refine List.flatMap_eq_nil_iff.mpr fun entry member => ?_
  have once : repeatedSymbols [] entry.2 = [] := repeatedSymbols_eq_nil (distinct entry member)
  rw [once]
  rfl

/-- Nothing is reported between tables that agree. -/
theorem IsConsistent.mismatches_eq_nil (consistent : IsConsistent index sections) :
    index.mismatches sections = [] := by
  have inSections : ∀ entry ∈ index.modules, ∃ documented,
      sections.get? entry.1 = some documented ∧ Agree entry.2 documented := by
    intro entry member
    have known := (consistent.same_modules entry.1).mp (List.mem_map_of_mem member)
    obtain ⟨documented, found⟩ := exists_get? known
    exact ⟨documented, found, consistent.agree _ _ _ member (mem_of_lookup found)⟩
  have inIndex : ∀ entry ∈ sections.modules, ∃ listed,
      index.get? entry.1 = some listed ∧ Agree listed entry.2 := by
    intro entry member
    have known := (consistent.same_modules entry.1).mpr (List.mem_map_of_mem member)
    obtain ⟨listed, found⟩ := exists_get? known
    exact ⟨listed, found, consistent.agree _ _ _ (mem_of_lookup found) member⟩
  have indexOnce : index.duplicates = [] := by
    refine duplicates_eq_nil fun entry member => ?_
    obtain ⟨_, _, agree⟩ := inSections entry member
    exact agree.distinct
  have sectionsOnce : sections.duplicates = [] := by
    refine duplicates_eq_nil fun entry member => ?_
    obtain ⟨_, _, agree⟩ := inIndex entry member
    exact agree.symm.distinct
  unfold mismatches
  dsimp only
  rw [indexOnce, sectionsOnce, List.nil_append, List.nil_append, List.append_eq_nil_iff]
  constructor
  · refine List.flatMap_eq_nil_iff.mpr fun entry member => ?_
    obtain ⟨documented, found, agree⟩ := inSections entry member
    rw [found]
    exact agree.compareModule_eq_nil entry.1
  · refine List.flatMap_eq_nil_iff.mpr fun entry member => ?_
    obtain ⟨listed, found, _⟩ := inIndex entry member
    exact if_pos (by rw [contains, found]; rfl)

end SymbolTable

end LlmTxt

/-
This file gives the whole rule by which a reference is documented, and says what it depends on. The
longest known part of a reference decides: it is the whole reference, or a module with a symbol of
the name behind it, or a package, and then any module may have the symbol. All that counts is which
modules two tables have together and which symbols these declare. So it is all the same which table
comes first, and in which order modules and symbols stand.
-/

import LlmTxt.Proofs.Example.Known
import Mathlib.Data.Multiset.MapFold

namespace LlmTxt

/-! ### What a table holds -/

namespace SymbolTable

/-- The modules of a table with their symbols, without any order. -/
def contents (table : SymbolTable) : Multiset (String × Multiset SymbolEntry) :=
  (table.modules.map fun entry => (entry.1, (entry.2 : Multiset SymbolEntry)) :
    List (String × Multiset SymbolEntry))

/-- Two tables differ in the order of modules and symbols at most. -/
def Reordered (table other : SymbolTable) : Prop :=
  table.contents = other.contents

end SymbolTable

namespace Documented

open Name

/-! ### What counts -/

variable {index sections index' sections' : SymbolTable} {path reference : List Char}

/-- One of two tables has a symbol in a module. -/
def HasEntry (index sections : SymbolTable) (module : List Char) (symbol : SymbolEntry) : Prop :=
  ∃ entry ∈ index.modules ++ sections.modules, entry.1.toList = module ∧ symbol ∈ entry.2

theorem hasPackage_iff :
    HasPackage index sections path ↔ ∃ rest, HasModule index sections (path ++ '.' :: rest) := by
  unfold HasPackage HasModule
  constructor
  · rintro ⟨entry, member, rest, same⟩
    exact ⟨rest, entry, member, same⟩
  · rintro ⟨rest, entry, member, same⟩
    exact ⟨entry, member, rest, same⟩

theorem namesSymbol_iff {name : List Char} :
    NamesSymbol index sections path name ↔
      ∃ module symbol, HasEntry index sections module symbol ∧
        (HasModule index sections path → module = path) ∧ name ∈ namesOf symbol := by
  unfold NamesSymbol HasEntry
  constructor
  · rintro ⟨entry, member, own, symbol, inModule, named⟩
    exact ⟨entry.1.toList, symbol, ⟨entry, member, rfl, inModule⟩, own, named⟩
  · rintro ⟨module, symbol, ⟨entry, member, rfl, inModule⟩, own, named⟩
    exact ⟨entry, member, own, symbol, inModule, named⟩

/-- Two pairs of tables have the same modules, and the same symbols in each. -/
structure Agree (index sections index' sections' : SymbolTable) : Prop where
  modules : ∀ path, HasModule index sections path ↔ HasModule index' sections' path
  entries : ∀ module symbol,
    HasEntry index sections module symbol ↔ HasEntry index' sections' module symbol

section Agreement

variable (agree : Agree index sections index' sections')

include agree

theorem Agree.knows_iff : Knows index sections path ↔ Knows index' sections' path := by
  unfold Knows
  simp only [hasPackage_iff, agree.modules]

theorem Agree.isLongest_iff :
    IsLongest index sections reference path ↔ IsLongest index' sections' reference path := by
  constructor
  · rintro ⟨isStart, known, longest⟩
    exact ⟨isStart, agree.knows_iff.mp known, fun other start otherKnown =>
      longest other start (agree.knows_iff.mpr otherKnown)⟩
  · rintro ⟨isStart, known, longest⟩
    exact ⟨isStart, agree.knows_iff.mpr known, fun other start otherKnown =>
      longest other start (agree.knows_iff.mp otherKnown)⟩

/-- Pairs of tables with the same modules and symbols document the same references. -/
theorem Agree.resolves_eq :
    (ofTables index sections).resolves reference =
      (ofTables index' sections').resolves reference := by
  rw [Bool.eq_iff_iff, resolves_iff, resolves_iff]
  simp only [agree.isLongest_iff, namesSymbol_iff, agree.modules, agree.entries]

end Agreement

/-! ### Order does not count -/

/-- It is all the same which of two tables comes first. -/
theorem agree_swap (index sections : SymbolTable) : Agree sections index index sections := by
  constructor
  · intro path
    unfold HasModule
    simp only [List.mem_append, or_comm]
  · intro module symbol
    unfold HasEntry
    simp only [List.mem_append, or_comm]

theorem hasModule_iff_contents :
    HasModule index sections path ↔
      (∃ content ∈ index.contents, content.1.toList = path) ∨
        ∃ content ∈ sections.contents, content.1.toList = path := by
  unfold HasModule
  simp [SymbolTable.contents, or_and_right, exists_or]

theorem hasEntry_iff_contents {module : List Char} {symbol : SymbolEntry} :
    HasEntry index sections module symbol ↔
      (∃ content ∈ index.contents, content.1.toList = module ∧ symbol ∈ content.2) ∨
        ∃ content ∈ sections.contents, content.1.toList = module ∧ symbol ∈ content.2 := by
  unfold HasEntry
  simp [SymbolTable.contents, or_and_right, exists_or]

/-- Tables that differ in their order only have the same modules and symbols. -/
theorem agree_of_reordered (first : index.Reordered index') (second : sections.Reordered sections') :
    Agree index' sections' index sections := by
  constructor
  · intro path
    rw [hasModule_iff_contents, hasModule_iff_contents, first, second]
  · intro module symbol
    rw [hasEntry_iff_contents, hasEntry_iff_contents, first, second]

/-! ### The rule -/

/-- A name is one that a symbol goes by: its full name, or what stands in that before its first
dot. -/
def GoesBy (symbol : SymbolEntry) (name : List Char) : Prop :=
  name = symbol.name.toList ∨ name = firstSegment symbol.name.toList

theorem mem_namesOf_iff {symbol : SymbolEntry} {name : List Char} :
    name ∈ namesOf symbol ↔ GoesBy symbol name := by
  simp [namesOf, GoesBy, firstSegment]

/-- A reference is documented if and only if the longest known part of it is all of it, or a module
with a symbol that goes by the segment behind it, or else a package, and any module has such a
symbol. The order of the tables, of their modules and of the symbols of a module is all the same. -/
theorem longest_known_part_decides (index sections : SymbolTable) (reference : List Char) :
    ((ofTables index sections).resolves reference = true ↔
      ∃ path, IsLongest index sections reference path ∧
        (reference = path ∨ ∃ rest, reference = path ++ '.' :: rest ∧
          (HasModule index sections path ∧
              (∃ symbol, HasEntry index sections path symbol ∧ GoesBy symbol (firstSegment rest)) ∨
            ¬HasModule index sections path ∧
              ∃ module symbol, HasEntry index sections module symbol ∧
                GoesBy symbol (firstSegment rest)))) ∧
      (ofTables sections index).resolves reference = (ofTables index sections).resolves reference ∧
      ∀ index' sections', index.Reordered index' → sections.Reordered sections' →
        (ofTables index' sections').resolves reference =
          (ofTables index sections).resolves reference := by
  refine ⟨?_, (agree_swap index sections).resolves_eq, fun index' sections' first second =>
    (agree_of_reordered first second).resolves_eq⟩
  rw [resolves_iff]
  refine exists_congr fun path => and_congr_right fun isLongest => ?_
  constructor
  · intro behind
    rcases isLongest.isStart with whole | ⟨rest, split⟩
    · exact Or.inl whole
    · refine Or.inr ⟨rest, split, ?_⟩
      obtain ⟨module, symbol, entry, own, named⟩ := namesSymbol_iff.mp (behind rest split)
      rw [mem_namesOf_iff] at named
      by_cases hasModule : HasModule index sections path
      · exact Or.inl ⟨hasModule, symbol, own hasModule ▸ entry, named⟩
      · exact Or.inr ⟨hasModule, module, symbol, entry, named⟩
  · rintro (whole | ⟨rest, split, found⟩) other same
    · have length := congrArg List.length (whole.symm.trans same)
      simp at length
    · obtain rfl : rest = other := by simpa using split.symm.trans same
      rw [namesSymbol_iff]
      simp only [mem_namesOf_iff]
      rcases found with ⟨_, symbol, entry, named⟩ | ⟨noModule, module, symbol, entry, named⟩
      · exact ⟨path, symbol, entry, fun _ => rfl, named⟩
      · exact ⟨module, symbol, entry, fun hasModule => absurd hasModule noModule, named⟩

end Documented

end LlmTxt

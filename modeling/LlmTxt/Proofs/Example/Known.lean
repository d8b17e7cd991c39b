/-
This file says which references two tables document, in terms of the tables alone. A dotted name is
known if one of them has it as a module, or has a module whose name goes on with a dot behind it.
The longest known part of a reference decides: it is the whole reference, or what comes behind it
is the name of a symbol, of that module where it is one, and else of any module.

Resolution tries the parts of a reference one after the other, by the number of their identifiers.
A part with more identifiers is longer as a text, so the first that is known is the longest.
-/

import LlmTxt.Proofs.Example.Resolution

namespace LlmTxt

/-! ### Parts of dotted names -/

namespace Name

/-- A text is a whole dotted name or what stands in it before a dot. -/
def IsStart (path reference : List Char) : Prop :=
  reference = path ∨ ∃ rest, reference = path ++ '.' :: rest

/-- What stands in a text before its first dot. -/
def firstSegment (text : List Char) : List Char :=
  text.takeWhile (· != '.')

theorem join_append {front back : List (List Char)} (before : front ≠ []) (behind : back ≠ []) :
    join (front ++ back) = join front ++ '.' :: join back := by
  unfold join
  induction front with
  | nil => exact absurd rfl before
  | cons part rest inductionHypothesis =>
    cases rest with
    | nil =>
      rw [List.singleton_append, List.intercalate_cons_of_ne_nil behind,
        List.intercalate_singleton, List.append_assoc]
      rfl
    | cons next more =>
      have nonempty : next :: more ≠ [] := List.cons_ne_nil next more
      have further : next :: more ++ back ≠ [] := List.cons_ne_nil next (more ++ back)
      rw [List.cons_append, List.intercalate_cons_of_ne_nil further, inductionHypothesis nonempty,
        List.intercalate_cons_of_ne_nil nonempty, List.append_assoc, List.append_assoc,
        List.append_assoc]

theorem segments_ne_nil (path : List Char) : segments path ≠ [] :=
  Text.splitAt_ne_nil '.' path

theorem segments_append (path rest : List Char) :
    segments (path ++ '.' :: rest) = segments path ++ segments rest :=
  Text.splitAt_append '.' path rest

theorem head?_segments (text : List Char) : (segments text).head? = some (firstSegment text) :=
  Text.head?_splitAt '.' text

theorem segments_join {parts : List (List Char)} (nonempty : parts ≠ [])
    (plain : ∀ part ∈ parts, '.' ∉ part) : segments (join parts) = parts :=
  Text.splitAt_intercalate plain nonempty

/-- Of the identifiers of a text, the first few make a part of it, and the others make the rest. -/
theorem append_join_drop {parts : List (List Char)} {count : Nat} (positive : 0 < count)
    (fewer : count < parts.length) :
    join parts = join (parts.take count) ++ '.' :: join (parts.drop count) := by
  have before : parts.take count ≠ [] := by
    rw [Ne, List.take_eq_nil_iff]
    rintro (rfl | rfl)
    · exact Nat.lt_irrefl 0 positive
    · exact absurd fewer (Nat.not_lt_zero count)
  have behind : parts.drop count ≠ [] := by
    rw [Ne, List.drop_eq_nil_iff]
    exact Nat.not_le.mpr fewer
  rw [← join_append before behind, List.take_append_drop]

/-- The parts of a dotted name are what some of its first identifiers make. -/
theorem isStart_iff {path reference : List Char} :
    IsStart path reference ↔ ∃ count, 0 < count ∧ count ≤ (segments reference).length ∧
      path = join ((segments reference).take count) := by
  constructor
  · intro start
    have positive := List.length_pos_iff.mpr (segments_ne_nil path)
    rcases start with rfl | ⟨rest, rfl⟩
    · exact ⟨_, positive, Nat.le_refl _, by rw [List.take_length, join_segments]⟩
    · refine ⟨(segments path).length, positive, ?_, ?_⟩
      · rw [segments_append, List.length_append]
        exact Nat.le_add_right _ _
      · rw [segments_append, List.take_left, join_segments]
  · rintro ⟨count, positive, within, rfl⟩
    rcases Nat.lt_or_eq_of_le within with fewer | all
    · refine Or.inr ⟨join ((segments reference).drop count), ?_⟩
      rw [← append_join_drop positive fewer, join_segments]
    · refine Or.inl ?_
      rw [all, List.take_length, join_segments]

/-- More identifiers make a longer part. -/
theorem length_join_take_lt {parts : List (List Char)} {count more : Nat} (positive : 0 < count)
    (fewer : count < more) (within : more ≤ parts.length) :
    (join (parts.take count)).length < (join (parts.take more)).length := by
  have longer : count < (parts.take more).length := by
    rw [List.length_take]
    exact Nat.lt_min.mpr ⟨fewer, Nat.lt_of_lt_of_le fewer within⟩
  have split := append_join_drop positive longer
  rw [List.take_take, Nat.min_eq_left (Nat.le_of_lt fewer)] at split
  rw [split, List.length_append, List.length_cons]
  omega

end Name

namespace Documented

open Name

/-! ### What the tables say -/

section Tables

variable (index sections : SymbolTable)

/-- One of two tables has a module of this name. -/
def HasModule (path : List Char) : Prop :=
  ∃ entry ∈ index.modules ++ sections.modules, entry.1.toList = path

/-- One of two tables has a module whose name goes on with a dot behind this one. -/
def HasPackage (path : List Char) : Prop :=
  ∃ entry ∈ index.modules ++ sections.modules, ∃ rest, entry.1.toList = path ++ '.' :: rest

/-- Two tables know a dotted name as a module, or as a package that holds one. -/
def Knows (path : List Char) : Prop :=
  HasModule index sections path ∨ HasPackage index sections path

/-- A name is that of a symbol behind a known one: of a symbol of the module, or, where that is only
a package, of a symbol of any module. -/
def NamesSymbol (path name : List Char) : Prop :=
  ∃ entry ∈ index.modules ++ sections.modules,
    (HasModule index sections path → entry.1.toList = path) ∧
      ∃ symbol ∈ entry.2, name ∈ namesOf symbol

/-- A known part of a reference, longer than any other. -/
structure IsLongest (reference path : List Char) : Prop where
  isStart : IsStart path reference
  known : Knows index sections path
  longest : ∀ other, IsStart other reference → Knows index sections other →
    other.length ≤ path.length

end Tables

/-! ### Adding names -/

variable {known : List (List Char × List (List Char))} {module : List Char}
  {names : List (List Char)}

theorem lookup_addNames (path : List Char) :
    (addNames module names known).lookup path =
      if module = path then some ((known.lookup path).getD [] ++ names)
      else known.lookup path := by
  fun_induction addNames module names known with
  | case1 =>
    by_cases same : module = path
    · rw [if_pos same, same, List.lookup_cons_self]
      rfl
    · rw [if_neg same, List.lookup_cons, beq_false_of_ne (Ne.symm same)]
  | case2 others rest =>
    by_cases same : module = path
    · rw [if_pos same, same, List.lookup_cons_self, List.lookup_cons_self, Option.getD_some]
    · rw [if_neg same, List.lookup_cons, List.lookup_cons, beq_false_of_ne (Ne.symm same)]
  | case3 first others rest different inductionHypothesis =>
    by_cases own : path = first
    · rw [own, List.lookup_cons_self, List.lookup_cons_self, if_neg (Ne.symm different)]
    · rw [List.lookup_cons, List.lookup_cons, beq_false_of_ne own]
      exact inductionHypothesis

theorem mem_map_fst_addNames {path : List Char} :
    path ∈ (addNames module names known).map (·.1) ↔
      path ∈ known.map (·.1) ∨ path = module := by
  fun_induction addNames module names known with
  | case1 => simp
  | case2 others rest => simp [or_comm]
  | case3 first others rest different inductionHypothesis =>
    rw [List.map_cons, List.mem_cons, inductionHypothesis, List.map_cons, List.mem_cons, or_assoc]

theorem exists_mem_addNames {name : List Char} :
    (∃ entry ∈ addNames module names known, name ∈ entry.2) ↔
      (∃ entry ∈ known, name ∈ entry.2) ∨ name ∈ names := by
  fun_induction addNames module names known with
  | case1 => simp
  | case2 others rest => simp [or_right_comm]
  | case3 first others rest different inductionHypothesis =>
    rw [List.exists_mem_cons_iff, inductionHypothesis, List.exists_mem_cons_iff, or_assoc]

/-! ### What is known -/

variable {index sections : SymbolTable} {path name : List Char}

/-- The entries of two tables for a module. -/
def entriesOf (index sections : SymbolTable) (path : List Char) : List (String × List SymbolEntry) :=
  (index.modules ++ sections.modules).filter fun entry => decide (entry.1.toList = path)

theorem symbolsOf?_ofTables (path : List Char) :
    (ofTables index sections).symbolsOf? path =
      if entriesOf index sections path = [] then none
      else some ((entriesOf index sections path).flatMap fun entry => entry.2.flatMap namesOf) := by
  unfold symbolsOf? ofTables entriesOf
  dsimp only
  induction index.modules ++ sections.modules using List.reverseRecOn with
  | nil => rfl
  | append_singleton front last inductionHypothesis =>
    rw [List.foldl_append, List.foldl_cons, List.foldl_nil, lookup_addNames, inductionHypothesis,
      List.filter_append]
    by_cases same : last.1.toList = path
    · have own : [last].filter (fun entry => decide (entry.1.toList = path)) = [last] := by
        simp [same]
      have nonempty (front : List (String × List SymbolEntry)) : ¬front ++ [last] = [] := by simp
      rw [own, if_pos same, if_neg (nonempty _), List.flatMap_append, List.flatMap_singleton]
      split
      · rename_i empty
        rw [empty]
        rfl
      · rfl
    · have own : [last].filter (fun entry => decide (entry.1.toList = path)) = [] := by
        simp [same]
      rw [own, if_neg same, List.append_nil]

theorem entriesOf_ne_nil_iff : entriesOf index sections path ≠ [] ↔ HasModule index sections path := by
  unfold entriesOf HasModule
  rw [Ne, List.filter_eq_nil_iff]
  simp only [decide_eq_true_eq, not_forall, not_not, exists_prop]

theorem isSome_symbolsOf?_iff :
    ((ofTables index sections).symbolsOf? path).isSome = true ↔ HasModule index sections path := by
  rw [symbolsOf?_ofTables, ← entriesOf_ne_nil_iff]
  split <;> simp_all

theorem mem_map_fst_ofTables :
    path ∈ (ofTables index sections).modules.map (·.1) ↔ HasModule index sections path := by
  unfold ofTables HasModule
  dsimp only
  induction index.modules ++ sections.modules using List.reverseRecOn with
  | nil => simp
  | append_singleton front last inductionHypothesis =>
    rw [List.foldl_append, List.foldl_cons, List.foldl_nil, mem_map_fst_addNames,
      inductionHypothesis]
    simp only [List.mem_append, List.mem_singleton, or_and_right, exists_or, exists_eq_left,
      @eq_comm _ path]

theorem exists_mem_ofTables :
    (∃ entry ∈ (ofTables index sections).modules, name ∈ entry.2) ↔
      ∃ entry ∈ index.modules ++ sections.modules, ∃ symbol ∈ entry.2, name ∈ namesOf symbol := by
  unfold ofTables
  dsimp only
  induction index.modules ++ sections.modules using List.reverseRecOn with
  | nil => simp
  | append_singleton front last inductionHypothesis =>
    rw [List.foldl_append, List.foldl_cons, List.foldl_nil, exists_mem_addNames,
      inductionHypothesis]
    simp only [List.mem_append, List.mem_singleton, List.mem_flatMap, or_and_right, exists_or,
      exists_eq_left]

theorem mem_properStarts_iff {module : List Char} :
    path ∈ properStarts module ↔ ∃ rest, module = path ++ '.' :: rest := by
  unfold properStarts
  simp only [List.mem_map, List.mem_range]
  constructor
  · rintro ⟨count, fewer, rfl⟩
    refine ⟨join ((segments module).drop (count + 1)), ?_⟩
    rw [← append_join_drop (Nat.succ_pos count) (by omega), join_segments]
  · rintro ⟨rest, rfl⟩
    have own := List.length_pos_iff.mpr (segments_ne_nil path)
    have others := List.length_pos_iff.mpr (segments_ne_nil rest)
    refine ⟨(segments path).length - 1, ?_, ?_⟩
    · rw [segments_append, List.length_append]
      omega
    · rw [segments_append, Nat.sub_add_cancel own, List.take_left, join_segments]

theorem isKnown_iff : (ofTables index sections).isKnown path = true ↔ Knows index sections path := by
  unfold isKnown packages Knows
  rw [Bool.or_eq_true, isSome_symbolsOf?_iff, List.contains_iff_mem, List.mem_eraseDups,
    List.mem_flatMap]
  refine or_congr_right ?_
  unfold HasPackage
  constructor
  · rintro ⟨known, member, start⟩
    obtain ⟨entry, inTables, same⟩ := mem_map_fst_ofTables.mp (List.mem_map_of_mem member)
    exact ⟨entry, inTables, same ▸ mem_properStarts_iff.mp start⟩
  · rintro ⟨entry, inTables, start⟩
    have inModules : entry.1.toList ∈ (ofTables index sections).modules.map (·.1) :=
      mem_map_fst_ofTables.mpr ⟨entry, inTables, rfl⟩
    obtain ⟨known, member, same⟩ := List.mem_map.mp inModules
    exact ⟨known, member, mem_properStarts_iff.mpr (same ▸ start)⟩

theorem hasSymbol_iff :
    (ofTables index sections).hasSymbol path name = true ↔ NamesSymbol index sections path name := by
  unfold hasSymbol NamesSymbol
  rw [symbolsOf?_ofTables]
  by_cases hasModule : HasModule index sections path
  · rw [if_neg (entriesOf_ne_nil_iff.mpr hasModule)]
    simp only [List.contains_iff_mem, List.mem_flatMap, entriesOf, List.mem_filter,
      decide_eq_true_eq, hasModule, forall_const, and_assoc]
  · rw [if_pos (not_not.mp fun nonempty => hasModule (entriesOf_ne_nil_iff.mp nonempty))]
    simp only [List.any_eq_true, List.contains_iff_mem, hasModule, false_implies, true_and]
    exact exists_mem_ofTables

/-! ### The longest known part decides -/

/-- The number of identifiers of the first known part is found, counting down. -/
theorem resolvesFrom_iff {documented : Documented} {parts : List (List Char)} (count : Nat) :
    documented.resolvesFrom parts count = true ↔
      ∃ size, 0 < size ∧ size ≤ count ∧ documented.isKnown (join (parts.take size)) = true ∧
        (∀ larger, size < larger → larger ≤ count →
          documented.isKnown (join (parts.take larger)) = false) ∧
        ∀ name ∈ (parts.drop size).head?,
          documented.hasSymbol (join (parts.take size)) name = true := by
  induction count with
  | zero =>
    refine ⟨fun resolves => absurd resolves Bool.false_ne_true, ?_⟩
    rintro ⟨size, positive, none, _⟩
    omega
  | succ count inductionHypothesis =>
    cases known : documented.isKnown (join (parts.take (count + 1))) with
    | true =>
      have decided : documented.resolvesFrom parts (count + 1) = true ↔
          ∀ name ∈ (parts.drop (count + 1)).head?,
            documented.hasSymbol (join (parts.take (count + 1))) name = true := by
        rw [resolvesFrom, if_pos known]
        cases parts.drop (count + 1) <;> simp
      refine decided.trans ?_
      constructor
      · intro own
        refine ⟨count + 1, Nat.succ_pos _, Nat.le_refl _, known, ?_, own⟩
        intro larger above within
        omega
      · rintro ⟨size, _, within, _, unknown, own⟩
        rcases Nat.lt_or_eq_of_le within with fewer | rfl
        · rw [unknown (count + 1) fewer (Nat.le_refl _)] at known
          cases known
        · exact own
    | false =>
      rw [resolvesFrom, known, if_neg Bool.false_ne_true, inductionHypothesis]
      refine exists_congr fun size => and_congr_right fun _ => ?_
      constructor
      · rintro ⟨within, own, unknown, behind⟩
        refine ⟨Nat.le_succ_of_le within, own, fun larger above bound => ?_, behind⟩
        rcases Nat.lt_or_eq_of_le bound with below | rfl
        · exact unknown larger above (Nat.le_of_lt_succ below)
        · exact known
      · rintro ⟨within, own, unknown, behind⟩
        refine ⟨?_, own, fun larger above bound => unknown larger above (Nat.le_succ_of_le bound),
          behind⟩
        rcases Nat.lt_or_eq_of_le within with below | rfl
        · exact Nat.le_of_lt_succ below
        · rw [own] at known
          cases known

/-- The first known part, counting down, is the longest. -/
theorem isLongest_iff {reference : List Char} {size : Nat} (positive : 0 < size)
    (within : size ≤ (segments reference).length) :
    IsLongest index sections reference (join ((segments reference).take size)) ↔
      (ofTables index sections).isKnown (join ((segments reference).take size)) = true ∧
        ∀ larger, size < larger → larger ≤ (segments reference).length →
          (ofTables index sections).isKnown (join ((segments reference).take larger)) = false := by
  constructor
  · intro isLongest
    refine ⟨isKnown_iff.mpr isLongest.known, fun larger above bound => ?_⟩
    refine Bool.eq_false_iff.mpr fun known => ?_
    have start := isStart_iff.mpr ⟨larger, Nat.lt_trans positive above, bound, rfl⟩
    have notLonger := isLongest.longest _ start (isKnown_iff.mp known)
    exact absurd (length_join_take_lt positive above bound) (Nat.not_lt.mpr notLonger)
  · rintro ⟨known, unknown⟩
    refine ⟨isStart_iff.mpr ⟨size, positive, within, rfl⟩, isKnown_iff.mp known, ?_⟩
    intro other start otherKnown
    obtain ⟨count, own, bound, rfl⟩ := isStart_iff.mp start
    rcases Nat.lt_trichotomy count size with fewer | rfl | more
    · exact Nat.le_of_lt (length_join_take_lt own fewer within)
    · exact Nat.le_refl _
    · have known := isKnown_iff.mpr otherKnown
      rw [unknown count more bound] at known
      cases known

/-- What comes behind a part of a reference begins with the identifier behind it. -/
theorem forall_head?_drop_iff {reference : List Char} {size : Nat} (positive : 0 < size)
    (property : List Char → Prop) :
    (∀ name ∈ ((segments reference).drop size).head?, property name) ↔
      ∀ rest, reference = join ((segments reference).take size) ++ '.' :: rest →
        property (firstSegment rest) := by
  rcases Nat.lt_or_ge size (segments reference).length with fewer | all
  · have split := append_join_drop positive fewer
    have nonempty : (segments reference).drop size ≠ [] := by
      rw [Ne, List.drop_eq_nil_iff]
      exact Nat.not_le.mpr fewer
    have head : ((segments reference).drop size).head? =
        some (firstSegment (join ((segments reference).drop size))) := by
      rw [← head?_segments, segments_join nonempty fun part member =>
        Text.notMem_of_mem_splitAt (List.mem_of_mem_drop member)]
    rw [join_segments] at split
    rw [head]
    constructor
    · intro own rest same
      have equal : join ((segments reference).drop size) = rest := by
        have both := split.symm.trans same
        simpa using both
      exact equal ▸ own _ rfl
    · rintro own _ ⟨⟩
      exact own _ split
  · rw [List.drop_of_length_le all, List.take_of_length_le all, join_segments]
    refine ⟨fun _ rest same => ?_, fun _ => nofun⟩
    have length := congrArg List.length same
    simp at length

/-- A reference is documented if and only if the longest known part of it is all of it, or goes on
with the name of a symbol. -/
theorem resolves_iff (reference : List Char) :
    (ofTables index sections).resolves reference = true ↔
      ∃ path, IsLongest index sections reference path ∧
        ∀ rest, reference = path ++ '.' :: rest →
          NamesSymbol index sections path (firstSegment rest) := by
  unfold resolves
  dsimp only
  rw [resolvesFrom_iff]
  constructor
  · rintro ⟨size, positive, within, known, unknown, behind⟩
    refine ⟨_, (isLongest_iff positive within).mpr ⟨known, unknown⟩, ?_⟩
    refine (forall_head?_drop_iff positive _).mp fun name member => ?_
    exact hasSymbol_iff.mp (behind name member)
  · rintro ⟨path, isLongest, behind⟩
    obtain ⟨size, positive, within, rfl⟩ := isStart_iff.mp isLongest.isStart
    obtain ⟨known, unknown⟩ := (isLongest_iff positive within).mp isLongest
    refine ⟨size, positive, within, known, unknown, fun name member => ?_⟩
    exact hasSymbol_iff.mpr ((forall_head?_drop_iff positive _).mpr behind name member)

end Documented

end LlmTxt

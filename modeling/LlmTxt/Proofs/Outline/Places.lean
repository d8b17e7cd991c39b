/-
This file shows that the outline of an Index speaks only of lines of the Index. Whatever is read
from a line, a module, a symbol or a problem, is put on that line; a module without categories is
reported where the module is, and an Index without modules at its heading.

The lines are given by an arbitrary property, so the argument does not hang on what they are: if
all lines of the section have it, and its heading does, then so do all lines that the outline
names.
-/

import LlmTxt.Outline.Reading
import Mathlib.Data.List.Basic

namespace LlmTxt

/-- A module of an outline names only lines with a property. -/
structure OutlineModule.IsWithin (place : Nat → Prop) (module : OutlineModule) : Prop where
  line_within : place module.line
  tokens_within : ∀ category ∈ module.categories, ∀ token ∈ category.tokens, place token.line

/-- A category without symbols names no line of its own. -/
theorem OutlineModule.IsWithin.addCategory {place : Nat → Prop} {module : OutlineModule}
    (within : module.IsWithin place) (category : OutlineCategory) (empty : category.tokens = []) :
    IsWithin place { module with categories := module.categories ++ [category] } := by
  refine ⟨within.line_within, ?_⟩
  intro own member
  rcases List.mem_append.mp member with earlier | last
  · exact within.tokens_within own earlier
  · rw [List.mem_singleton.mp last, empty]
    simp

/-- An outline that is being read names only lines with a property. -/
structure OutlineReading.IsWithin (place : Nat → Prop) (reading : OutlineReading) : Prop where
  modules_within : ∀ module ∈ reading.modules.toList, module.IsWithin place
  problems_within : ∀ problem ∈ reading.problems.toList, place problem.line

/-! ### Changing one element -/

theorem forall_mem_modify {α : Type} {property : α → Prop} {change : α → α} {elements : List α}
    (all : ∀ element ∈ elements, property element)
    (keeps : ∀ element, property element → property (change element)) (index : Nat) :
    ∀ element ∈ elements.modify index change, property element := by
  induction elements generalizing index with
  | nil => simp
  | cons first rest inductionHypothesis =>
    obtain ⟨own, others⟩ := List.forall_mem_cons.mp all
    cases index with
    | zero => exact List.forall_mem_cons.mpr ⟨keeps first own, others⟩
    | succ index => exact List.forall_mem_cons.mpr ⟨own, inductionHypothesis others index⟩

/-! ### Symbols -/

namespace OutlineToken

theorem line_of_ofCode? {code : List Char} {line : Nat} {token : OutlineToken}
    (found : ofCode? code line = some token) : token.line = line := by
  unfold ofCode? at found
  split at found
  · cases found
  · cases found
    rfl

theorem line_of_mem_listed {text : List Char} {line : Nat} {token : OutlineToken}
    (member : token ∈ (listed text line).1) : token.line = line := by
  obtain ⟨code, _, found⟩ := List.mem_filterMap.mp member
  exact line_of_ofCode? found

theorem line_of_mem_listed_problems {text : List Char} {line : Nat} {problem : OutlineProblem}
    (member : problem ∈ (listed text line).2) : problem.line = line := by
  unfold listed at member
  rcases List.mem_append.mp member with badName | uncoded
  · obtain ⟨code, _, rfl⟩ := List.mem_map.mp badName
    rfl
  · split at uncoded
    · rw [List.mem_singleton.mp uncoded]
    · cases uncoded

end OutlineToken

/-! ### Reading -/

namespace OutlineReading

variable {place : Nat → Prop} {reading : OutlineReading} {line : Nat}

theorem isWithin_start : start.IsWithin place :=
  ⟨by simp [start], by simp [start]⟩

/-- Only the modules and the problems count. -/
theorem IsWithin.congr (within : reading.IsWithin place) {other : OutlineReading}
    (modules : other.modules = reading.modules) (problems : other.problems = reading.problems) :
    other.IsWithin place :=
  ⟨modules ▸ within.modules_within, problems ▸ within.problems_within⟩

theorem IsWithin.note (within : reading.IsWithin place) (there : place line)
    (fault : OutlineFault) : (reading.note line fault).IsWithin place := by
  refine ⟨within.modules_within, ?_⟩
  intro problem member
  rw [OutlineReading.note, Array.toList_push] at member
  rcases List.mem_append.mp member with earlier | last
  · exact within.problems_within problem earlier
  · rw [List.mem_singleton.mp last]
    exact there

theorem IsWithin.modifyModule (within : reading.IsWithin place)
    {change : OutlineModule → OutlineModule}
    (keeps : ∀ module : OutlineModule, module.IsWithin place → (change module).IsWithin place) :
    (reading.modifyModule change).IsWithin place := by
  refine ⟨?_, within.problems_within⟩
  rw [OutlineReading.modifyModule, Array.toList_modify]
  exact forall_mem_modify within.modules_within keeps _

theorem tokens_addToLast {tokens : List OutlineToken} {categories : List OutlineCategory}
    (added : ∀ token ∈ tokens, place token.line)
    (all : ∀ category ∈ categories, ∀ token ∈ category.tokens, place token.line) :
    ∀ category ∈ addToLast tokens categories, ∀ token ∈ category.tokens, place token.line := by
  fun_induction addToLast tokens categories with
  | case1 => exact all
  | case2 last =>
    intro category member token inTokens
    rw [List.mem_singleton.mp member] at inTokens
    rcases List.mem_append.mp inTokens with earlier | new
    · exact all last (List.mem_singleton_self last) token earlier
    · exact added token new
  | case3 first rest _ inductionHypothesis =>
    obtain ⟨own, others⟩ := List.forall_mem_cons.mp all
    exact List.forall_mem_cons.mpr ⟨own, inductionHypothesis others⟩

theorem IsWithin.readTokens (within : reading.IsWithin place) (there : place line)
    (text : List Char) : (reading.readTokens line text).IsWithin place := by
  have noted : IsWithin place
      { reading with
        problems := reading.problems ++ (OutlineToken.listed text line).2.toArray } := by
    refine ⟨within.modules_within, ?_⟩
    intro problem member
    rw [Array.toList_append] at member
    rcases List.mem_append.mp member with earlier | new
    · exact within.problems_within problem earlier
    · rw [OutlineToken.line_of_mem_listed_problems new]
      exact there
  refine noted.modifyModule fun module own => ⟨own.line_within, ?_⟩
  refine tokens_addToLast ?_ own.tokens_within
  intro token member
  rw [OutlineToken.line_of_mem_listed member]
  exact there

theorem IsWithin.readModule (within : reading.IsWithin place) (there : place line)
    (content : List Char) : (reading.readModule line content).IsWithin place := by
  have left : IsWithin place { reading with inCategory := false, categoryIndent := none } :=
    within.congr rfl rfl
  unfold OutlineReading.readModule
  dsimp only
  split
  · refine IsWithin.note ?_ there _
    exact left.congr rfl rfl
  · rename_i characters formatted _
    have noted : IsWithin place
        (if formatted then { reading with inCategory := false, categoryIndent := none }
        else OutlineReading.note { reading with inCategory := false, categoryIndent := none } line
          (.plainModuleName (String.ofList characters))) := by
      split
      · exact left
      · exact left.note there _
    refine ⟨?_, noted.problems_within⟩
    intro module member
    rw [Array.toList_push] at member
    rcases List.mem_append.mp member with earlier | last
    · exact noted.modules_within module earlier
    · rw [List.mem_singleton.mp last]
      exact ⟨there, by simp⟩

theorem IsWithin.readCategory (within : reading.IsWithin place) (there : place line)
    (content : List Char) : (reading.readCategory line content).IsWithin place := by
  unfold OutlineReading.readCategory
  split
  · refine IsWithin.note ?_ there _
    exact within.congr rfl rfl
  · dsimp only
    split
    · refine IsWithin.note ?_ there _
      exact within.congr rfl rfl
    · rename_i found _ _ _ kind _
      have opened := within.modifyModule fun module own =>
        OutlineModule.IsWithin.addCategory own ⟨String.ofList (Text.trim found), kind, line, []⟩ rfl
      refine IsWithin.readTokens ?_ there _
      exact opened.congr rfl rfl

theorem IsWithin.readInner (within : reading.IsWithin place) (there : place line)
    (bullet : Bullet) : (reading.readInner line bullet).IsWithin place := by
  unfold OutlineReading.readInner
  split
  · exact within.note there _
  · split
    · refine IsWithin.readCategory ?_ there _
      exact within.congr rfl rfl
    · split
      · exact within.note there _
      · exact within.readCategory there _

theorem IsWithin.readBullet (within : reading.IsWithin place) (there : place line)
    (bullet : Bullet) : (reading.readBullet line bullet).IsWithin place := by
  have based : IsWithin place { reading with base := some (reading.base.getD bullet.indent) } :=
    within.congr rfl rfl
  unfold OutlineReading.readBullet
  dsimp only
  split
  · exact IsWithin.readModule based there _
  · exact IsWithin.readInner based there _

theorem IsWithin.readText (within : reading.IsWithin place) (there : place line)
    (text : List Char) : (reading.readText line text).IsWithin place := by
  unfold OutlineReading.readText
  split
  · exact within
  · split
    · split
      · exact within.readTokens there _
      · exact within
    · exact within.note there _

/-- Reading a line adds nothing that is not on it. -/
theorem IsWithin.readLine (within : reading.IsWithin place) {line : SourceLine}
    (there : place line.number) : (reading.readLine line).IsWithin place := by
  unfold OutlineReading.readLine
  split
  · unfold OutlineReading.readCode
    split
    · exact within
    · exact (within.note there _).congr rfl rfl
  · have outside : IsWithin place { reading with inCode := false } := within.congr rfl rfl
    dsimp only
    split
    · exact outside
    · split
      · exact outside.readBullet there _
      · exact outside.readText there _

theorem isWithin_foldl {lines : List SourceLine} (there : ∀ line ∈ lines, place line.number)
    (within : reading.IsWithin place) : (lines.foldl readLine reading).IsWithin place := by
  induction lines generalizing reading with
  | nil => exact within
  | cons line rest inductionHypothesis =>
    obtain ⟨own, others⟩ := List.forall_mem_cons.mp there
    exact inductionHypothesis others (within.readLine own)

end OutlineReading

/-! ### Outlines -/

namespace Outline

/-- An outline names only lines with a property. -/
structure IsWithin (place : Nat → Prop) (outline : Outline) : Prop where
  modules_within : ∀ module ∈ outline.modules, module.IsWithin place
  problems_within : ∀ problem ∈ outline.problems, place problem.line

/-- The outline of an Index names only lines of it and its heading. -/
theorem isWithin_ofSection {place : Nat → Prop} {index : Section}
    (heading : place index.span.first) (lines : ∀ line ∈ index.lines, place line.number) :
    (ofSection index).IsWithin place := by
  have within := OutlineReading.isWithin_foldl lines OutlineReading.isWithin_start
  refine ⟨within.modules_within, ?_⟩
  intro problem member
  rcases List.mem_append.mp member with reported | closing
  · exact within.problems_within problem reported
  · rcases List.mem_append.mp closing with empty | noModule
    · obtain ⟨module, inModules, rfl⟩ := List.mem_map.mp empty
      exact (within.modules_within module (List.mem_filter.mp inModules).1).line_within
    · split at noModule
      · rw [List.mem_singleton.mp noModule]
        exact heading
      · cases noModule

end Outline

end LlmTxt

/-
This file says that cutting a text at a separator is what the library does to lists. So joining
pieces with the separator between them and cutting the text again gives the pieces back, and there
is one piece more than there are separators. No piece holds a separator.
-/

import LlmTxt.Text.Blank
import Mathlib.Data.List.Basic
import Mathlib.Data.List.Forall2

namespace LlmTxt.Text

theorem splitAt_eq_splitOn (separator : Char) (characters : List Char) :
    splitAt separator characters = characters.splitOn separator := by
  induction characters with
  | nil => rfl
  | cons character rest inductionHypothesis =>
    rw [splitAt, List.splitOn_cons_eq_if_modifyHead, inductionHypothesis]
    simp only [beq_iff_eq]
    split
    · rfl
    · split
      · rename_i noPiece
        exact absurd noPiece (List.splitOn_ne_nil separator rest)
      · rename_i piece more pieces
        rw [pieces]
        rfl

theorem splitAt_ne_nil (separator : Char) (characters : List Char) :
    splitAt separator characters ≠ [] := by
  rw [splitAt_eq_splitOn]
  exact List.splitOn_ne_nil separator characters

/-- There is one piece more than there are separators. -/
theorem length_splitAt (separator : Char) (characters : List Char) :
    (splitAt separator characters).length = characters.count separator + 1 := by
  rw [splitAt_eq_splitOn]
  induction characters with
  | nil => rfl
  | cons character rest inductionHypothesis =>
    rw [List.splitOn_cons_eq_if_modifyHead, List.count_cons]
    split
    · rw [List.length_cons, inductionHypothesis]
    · rw [List.length_modifyHead, inductionHypothesis, Nat.add_zero]

/-- Pieces that are joined and cut again are the same pieces. -/
theorem splitAt_intercalate {separator : Char} {pieces : List (List Char)}
    (absent : ∀ piece ∈ pieces, separator ∉ piece) (nonempty : pieces ≠ []) :
    splitAt separator ([separator].intercalate pieces) = pieces := by
  rw [splitAt_eq_splitOn]
  exact List.splitOn_intercalate separator absent nonempty

/-- Without a separator there is nothing to cut. -/
theorem splitAt_of_notMem {separator : Char} {characters : List Char}
    (absent : separator ∉ characters) : splitAt separator characters = [characters] := by
  have joined : splitAt separator ([separator].intercalate [characters]) = [characters] :=
    splitAt_intercalate (by simpa using absent) (by simp)
  rwa [List.intercalate_singleton] at joined

/-- What holds of a separator holds of some pieces joined if and only if it holds of all pieces. -/
theorem forall_mem_intercalate_iff {holds : Char → Prop} {separator : List Char}
    {pieces : List (List Char)} (between : ∀ character ∈ separator, holds character) :
    (∀ character ∈ separator.intercalate pieces, holds character) ↔
      ∀ piece ∈ pieces, ∀ character ∈ piece, holds character := by
  induction pieces with
  | nil => exact iff_of_true nofun nofun
  | cons piece rest inductionHypothesis =>
    cases rest with
    | nil => rw [List.intercalate_singleton, List.forall_mem_singleton]
    | cons next more =>
      rw [List.intercalate_cons_cons, List.forall_mem_append, List.forall_mem_append,
        inductionHypothesis, and_iff_left between]
      simp only [List.forall_mem_cons]

theorem splitAt_append (separator : Char) (front back : List Char) :
    splitAt separator (front ++ separator :: back) =
      splitAt separator front ++ splitAt separator back := by
  induction front with
  | nil => exact if_pos rfl
  | cons character rest inductionHypothesis =>
    rw [List.cons_append, splitAt, splitAt, inductionHypothesis]
    split
    · rfl
    · cases pieces : splitAt separator rest with
      | nil => exact absurd pieces (splitAt_ne_nil separator rest)
      | cons piece more => rfl

/-- No piece holds a separator. -/
theorem notMem_of_mem_splitAt {separator : Char} {characters piece : List Char}
    (member : piece ∈ splitAt separator characters) : separator ∉ piece := by
  induction characters generalizing piece with
  | nil =>
    rw [List.mem_singleton.mp member]
    exact List.not_mem_nil
  | cons character rest inductionHypothesis =>
    rw [splitAt] at member
    split at member
    · rcases List.mem_cons.mp member with rfl | later
      · exact List.not_mem_nil
      · exact inductionHypothesis later
    · rename_i different
      split at member
      · rw [List.mem_singleton.mp member, List.mem_singleton]
        exact fun same => different same.symm
      · rename_i first more pieces
        rw [pieces] at inductionHypothesis
        rcases List.mem_cons.mp member with rfl | later
        · rw [List.mem_cons, not_or]
          exact ⟨fun same => different same.symm, inductionHypothesis List.mem_cons_self⟩
        · exact inductionHypothesis (List.mem_cons_of_mem _ later)

/-- The first piece is what stands before the first separator. -/
theorem head?_splitAt (separator : Char) (characters : List Char) :
    (splitAt separator characters).head? = some (characters.takeWhile (· != separator)) := by
  induction characters with
  | nil => rfl
  | cons character rest inductionHypothesis =>
    rw [splitAt, List.takeWhile_cons]
    by_cases same : character = separator
    · simp [same]
    · rw [if_neg same, if_pos (bne_iff_ne.mpr same)]
      cases pieces : splitAt separator rest with
      | nil => exact absurd pieces (splitAt_ne_nil separator rest)
      | cons piece more =>
        rw [pieces, List.head?_cons, Option.some.injEq] at inductionHypothesis
        rw [List.head?_cons, inductionHypothesis]

theorem intercalate_splitAt (separator : Char) (characters : List Char) :
    [separator].intercalate (splitAt separator characters) = characters := by
  rw [splitAt_eq_splitOn]
  exact List.intercalate_splitOn separator

/-- Texts that agree, character by character, in where the separators are have pieces that agree. -/
theorem forall₂_splitAt {separator : Char} {agree : Char → Char → Prop} {one other : List Char}
    (each : List.Forall₂ agree one other)
    (same : ∀ {first second}, agree first second → (first = separator ↔ second = separator)) :
    List.Forall₂ (List.Forall₂ agree) (splitAt separator one) (splitAt separator other) := by
  induction each with
  | nil => exact .cons .nil .nil
  | @cons first second one other agrees _ inductionHypothesis =>
    rw [splitAt, splitAt]
    by_cases separates : first = separator
    · rw [if_pos separates, if_pos ((same agrees).mp separates)]
      exact .cons .nil inductionHypothesis
    · rw [if_neg separates, if_neg fun apart => separates ((same agrees).mpr apart)]
      generalize splitAt separator one = pieces at inductionHypothesis ⊢
      generalize splitAt separator other = others at inductionHypothesis ⊢
      cases inductionHypothesis with
      | nil => exact .cons (.cons agrees .nil) .nil
      | cons piece rest => exact .cons (.cons agrees piece) rest

/-! ### What follows a lead -/

theorem after?_eq_some_iff {lead text rest : List Char} :
    after? lead text = some rest ↔ text = lead ++ rest := by
  induction lead generalizing text with
  | nil => exact Option.some_inj
  | cons expected lead inductionHypothesis =>
    cases text with
    | nil => simp [after?]
    | cons character text =>
      rw [after?, List.cons_append, List.cons.injEq, Option.ite_none_right_eq_some,
        inductionHypothesis, eq_comm (a := expected)]

end LlmTxt.Text

/-
This file says that blanking keeps positions. Code is taken apart, from left to right, into single
characters that stay and whole strings and comments. None of these goes on behind the end of the
code, because what is not closed is no string and no comment between marks. Each character of a
string or comment becomes one character, and only a line feed becomes a line feed. So the cleaned
code is as long as the code, is cut into lines at the same places, and each of its lines is a line of
the code in which some characters have become spaces.
-/

import LlmTxt.Example.Noise
import LlmTxt.Proofs.Text.Pieces
import Mathlib.Data.List.Forall2

namespace LlmTxt.Noise

open Text

variable {text rest token code cleaned : List Char} {previous : Option Char} {count : Nat}

/-! ### Strings and comments end with the code -/

theorem closingDistance_le {quote : Quote} (closed : closingDistance quote text = some count) :
    count ≤ text.length := by
  fun_induction closingDistance quote text generalizing count with
  | case1 => cases closed
  | case2 more =>
    cases closed
    exact Nat.le_add_left 1 _
  | case3 => cases closed
  | case4 => cases closed
  | case5 _ _ _ _ more _ inductionHypothesis =>
    obtain ⟨further, reached, rfl⟩ := Option.map_eq_some_iff.mp closed
    exact Nat.add_le_add_right (inductionHypothesis reached) 2
  | case6 => cases closed
  | case7 _ more _ _ _ inductionHypothesis =>
    obtain ⟨further, reached, rfl⟩ := Option.map_eq_some_iff.mp closed
    exact Nat.succ_le_succ (inductionHypothesis reached)

theorem length_of_after? {lead : List Char} (begins : after? lead text = some rest) :
    text.length = rest.length + lead.length := by
  rw [after?_eq_some_iff.mp begins, List.length_append, Nat.add_comm]

theorem distanceBehind_le {ending : List Char} (found : distanceBehind ending text = some count) :
    count ≤ text.length := by
  fun_induction distanceBehind ending text generalizing count with
  | case1 =>
    cases found
    exact Nat.le_refl 0
  | case2 => cases found
  | case3 character rest ends =>
    cases found
    obtain ⟨behind, begins⟩ := Option.isSome_iff_exists.mp ends
    rw [length_of_after? begins]
    exact Nat.le_add_left _ _
  | case4 character rest _ inductionHypothesis =>
    obtain ⟨further, reached, rfl⟩ := Option.map_eq_some_iff.mp found
    exact Nat.succ_le_succ (inductionHypothesis reached)

/-- What is between marks goes up to the end of the text at most. -/
theorem distanceBehind_add_le {opening closing : List Char}
    (begins : after? opening text = some rest)
    (found : (distanceBehind closing rest).map (· + opening.length) = some count) :
    count ≤ text.length := by
  obtain ⟨inside, reached, rfl⟩ := Option.map_eq_some_iff.mp found
  rw [length_of_after? begins]
  exact Nat.add_le_add_right (distanceBehind_le reached) _

theorem tripledLength_le {mark : Char} (found : tripledLength mark text = some count) :
    count ≤ text.length := by
  unfold tripledLength at found
  dsimp only at found
  split at found
  · cases found
  · rename_i inside begins
    exact distanceBehind_add_le begins found

theorem quoteLength_le {tripled : Bool} {quote : Quote}
    (found : quoteLength tripled quote text = some count) : count ≤ text.length := by
  unfold quoteLength at found
  split at found
  · cases found
  · rename_i first inside
    split at found
    · rcases Option.or_eq_some_iff.mp found with long | ⟨-, short⟩
      · split at long
        · exact tripledLength_le long
        · cases long
      · obtain ⟨further, reached, rfl⟩ := Option.map_eq_some_iff.mp short
        exact Nat.succ_le_succ (closingDistance_le reached)
    · cases found

theorem stringLength_le {style : StringStyle} (found : stringLength style text = some count) :
    count ≤ text.length := by
  obtain ⟨quote, -, own⟩ := List.exists_of_findSome?_eq_some found
  exact quoteLength_le own

theorem literalLength_le {style : StringStyle}
    (found : literalLength style previous text = some count) : count ≤ text.length := by
  unfold literalLength at found
  split at found
  · dsimp only at found
    split at found
    · cases found
    · obtain ⟨further, reached, rfl⟩ := Option.map_eq_some_iff.mp found
      have letters : (text.takeWhile isStringLetter).length ≤ text.length :=
        (List.takeWhile_sublist _).length_le
      have inside := stringLength_le reached
      rw [List.length_drop] at inside
      omega
  · exact stringLength_le found

theorem commentLength_le {marks : Language.CommentMarks}
    (found : commentLength marks text = some count) : count ≤ text.length := by
  unfold commentLength at found
  dsimp only at found
  rcases Option.or_eq_some_iff.mp found with block | ⟨-, line⟩
  · split at block
    · cases block
    · split at block
      · cases block
      · rename_i opening closing _ inside begins
        exact distanceBehind_add_le begins block
  · split at line
    · cases line
      exact (List.takeWhile_sublist _).length_le
    · cases line

/-- A string or comment goes up to the end of the text at most. -/
theorem length_le (marks : Marks) (previous : Option Char) (text : List Char) :
    length marks previous text ≤ text.length := by
  unfold length
  cases found : (literalLength marks.strings previous text).or
      (commentLength marks.comments text) with
  | none => exact Nat.zero_le _
  | some count =>
    rcases Option.or_eq_some_iff.mp found with literal | ⟨-, comment⟩
    · exact literalLength_le literal
    · exact commentLength_le comment

/-! ### Code piece by piece -/

/-- Code is cleaned piece by piece: a character at which no string and no comment begins stays, and
a whole string or comment is blanked. -/
inductive IsCleaned (marks : Marks) : (previous : Option Char) → (code cleaned : List Char) → Prop
  | nothing {previous : Option Char} : IsCleaned marks previous [] []
  | kept {previous : Option Char} {character : Char} {rest cleaned : List Char}
      (nowhere : length marks previous (character :: rest) = 0)
      (others : IsCleaned marks (some character) rest cleaned) :
      IsCleaned marks previous (character :: rest) (character :: cleaned)
  | blanked {previous : Option Char} {first : Char} {token rest cleaned : List Char}
      (counted : length marks previous (first :: (token ++ rest)) = token.length + 1)
      (others : IsCleaned marks ((first :: token).getLast?) rest cleaned) :
      IsCleaned marks previous (first :: (token ++ rest))
        ((first :: token).map blank ++ cleaned)

/-- The characters that are counted to a string or comment are all blanked. -/
theorem blankFrom_append (marks : Marks) (first : Char) (token rest : List Char) :
    blankFrom marks (some first) token.length (token ++ rest) =
      token.map blank ++ blankFrom marks ((first :: token).getLast?) 0 rest := by
  induction token generalizing first with
  | nil => rfl
  | cons character token inductionHypothesis =>
    rw [List.length_cons, List.cons_append, blankFrom, inductionHypothesis, List.getLast?_cons_cons]
    rfl

theorem isCleaned_blankFrom (marks : Marks) (previous : Option Char) (code : List Char) :
    IsCleaned marks previous code (blankFrom marks previous 0 code) := by
  -- a whole string or comment is taken at once, so the induction is on the length of the code
  induction whole : code.length using Nat.strongRecOn generalizing previous code with
  | _ bound inductionHypothesis =>
    cases code with
    | nil => exact .nothing
    | cons character rest =>
      rw [blankFrom]
      cases counted : length marks previous (character :: rest) with
      | zero => exact .kept counted (inductionHypothesis _ (by simp [← whole]) _ rest rfl)
      | succ inside =>
        have within : inside ≤ rest.length := by
          have bounded := length_le marks previous (character :: rest)
          rw [counted, List.length_cons] at bounded
          omega
        obtain ⟨token, behind, rfl, rfl⟩ : ∃ token behind, rest = token ++ behind ∧
            inside = token.length :=
          ⟨rest.take inside, rest.drop inside, (List.take_append_drop _ _).symm,
            (List.length_take_of_le within).symm⟩
        have fewer : behind.length < bound := by
          rw [← whole, List.length_cons, List.length_append]
          omega
        dsimp only
        rw [blankFrom_append]
        exact .blanked counted (inductionHypothesis _ fewer _ behind rfl)

theorem isCleaned_sanitize (code : List Char) (language : String) :
    IsCleaned (marksOf language) none code (sanitize code language) :=
  isCleaned_blankFrom _ none code

/-! ### Character by character -/

/-- A character as cleaned code has it: as it was, or a space, and no line feed comes or goes. -/
structure IsKept (original written : Char) : Prop where
  feed : written = '\n' ↔ original = '\n'
  kept : written = original ∨ written = ' '

theorem isKept_self (character : Char) : IsKept character character where
  feed := Iff.rfl
  kept := Or.inl rfl

theorem isKept_blank (character : Char) : IsKept character (blank character) := by
  unfold blank
  split
  · rename_i same
    exact same ▸ isKept_self '\n'
  · rename_i different
    exact ⟨⟨fun same => absurd same (by decide), fun same => absurd same different⟩, Or.inr rfl⟩

/-- Each piece of the code is as long as what is written for it. -/
theorem IsCleaned.forall₂ {marks : Marks} (isCleaned : IsCleaned marks previous code cleaned) :
    List.Forall₂ IsKept code cleaned := by
  induction isCleaned with
  | nothing => exact .nil
  | @kept _ character _ _ _ _ inductionHypothesis =>
    exact .cons (isKept_self character) inductionHypothesis
  | @blanked _ first token rest cleaned _ _ inductionHypothesis =>
    rw [← List.cons_append]
    refine List.rel_append ?_ inductionHypothesis
    exact List.forall₂_map_right_iff.mpr (List.forall₂_same.mpr fun own _ => isKept_blank own)

/-- Cleaned code has the lines of the code, with some of their characters blanked. -/
theorem forall₂_splitAt_sanitize (code : List Char) (language : String) :
    List.Forall₂ (List.Forall₂ IsKept) (splitAt '\n' code)
      (splitAt '\n' (sanitize code language)) :=
  forall₂_splitAt (isCleaned_sanitize code language).forall₂ fun isKept => isKept.feed.symm

theorem length_splitAt_sanitize (code : List Char) (language : String) :
    (splitAt '\n' (sanitize code language)).length = (splitAt '\n' code).length :=
  (forall₂_splitAt_sanitize code language).length_eq.symm

/-- What cleaned code has at a position is kept from what the code has there. -/
theorem getElem?_cases (each : List.Forall₂ IsKept code cleaned) (position : Nat) :
    (code[position]? = none ∧ cleaned[position]? = none) ∨
      ∃ original written, code[position]? = some original ∧ cleaned[position]? = some written ∧
        IsKept original written := by
  induction each generalizing position with
  | nil => exact Or.inl ⟨rfl, rfl⟩
  | @cons original written code cleaned isKept _ inductionHypothesis =>
    cases position with
    | zero => exact Or.inr ⟨original, written, rfl, rfl, isKept⟩
    | succ position => exact inductionHypothesis position

/-- Code is cleaned piece by piece, and by this it keeps its length, has line feeds at the same
positions and at each position what it had there or a space. It is cut into as many lines as before,
and each is a line of the code with some characters blanked. -/
theorem sanitize_keeps_positions (code : List Char) (language : String) :
    IsCleaned (marksOf language) none code (sanitize code language) ∧
      (sanitize code language).length = code.length ∧
      (∀ position : Nat,
        (sanitize code language)[position]? = some '\n' ↔ code[position]? = some '\n') ∧
      (∀ position : Nat, (sanitize code language)[position]? = code[position]? ∨
        (sanitize code language)[position]? = some ' ') ∧
      (splitAt '\n' (sanitize code language)).length = (splitAt '\n' code).length ∧
      List.Forall₂ (List.Forall₂ IsKept) (splitAt '\n' code)
        (splitAt '\n' (sanitize code language)) := by
  have isCleaned := isCleaned_sanitize code language
  refine ⟨isCleaned, isCleaned.forall₂.length_eq.symm, fun position => ?_, fun position => ?_,
    length_splitAt_sanitize code language, forall₂_splitAt_sanitize code language⟩
  · rcases getElem?_cases isCleaned.forall₂ position with
      ⟨outside, beyond⟩ | ⟨original, written, own, cleaned, isKept⟩
    · rw [outside, beyond]
    · rw [own, cleaned, Option.some.injEq, Option.some.injEq, isKept.feed]
  · rcases getElem?_cases isCleaned.forall₂ position with
      ⟨outside, beyond⟩ | ⟨original, written, own, cleaned, isKept⟩
    · exact Or.inl (beyond.trans outside.symm)
    · rw [own, cleaned, Option.some.injEq, Option.some.injEq]
      exact isKept.kept

end LlmTxt.Noise

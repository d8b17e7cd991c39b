/-
This file compares two ways of taking no notice of letter case. One folds single characters, and
lets four letters beyond ASCII stand for ASCII letters; the other puts a whole text into small
letters, and keeps such letters or splits them. On ASCII both do the same. A text that folds to
ASCII letters without holding any of the four is itself ASCII, and a text that does hold the
dotless i, the dotted capital I or the long s has no lower case in ASCII.
-/

import LlmTxt.Proofs.Text.Trim
import LlmTxt.Text.Case

namespace LlmTxt.Text

/-- A character of ASCII. -/
def isAscii (character : Char) : Bool :=
  character.toNat < 128

/-- The letters beyond ASCII that fold to an ASCII letter other than k. -/
def foldedLetters : List Char :=
  ['İ', 'ı', 'ſ']

/-- The sign of the unit kelvin, which folds to the letter k. -/
def kelvinSign : Char :=
  Char.ofNat 0x212A

theorem isAscii_of_isAscii_toLower {character : Char} (ascii : isAscii character.toLower = true) :
    isAscii character = true := by
  unfold Char.toLower at ascii
  split at ascii
  · rename_i capital
    have bound : character.toNat ≤ 90 := capital.2
    exact decide_eq_true (by omega)
  · exact ascii

theorem isAlpha_of_isAlpha_toLower {character : Char} (alpha : character.toLower.isAlpha = true) :
    character.isAlpha = true := by
  unfold Char.toLower at alpha
  split at alpha
  · rename_i capital
    exact Bool.or_eq_true_iff.mpr (Or.inl (decide_eq_true capital))
  · exact alpha

theorem isAscii_of_isAlpha {character : Char} (alpha : character.isAlpha = true) :
    isAscii character = true :=
  of_isNameStart (by decide) (isNameStart_of_isAlpha alpha)

theorem fold_of_isAscii {character : Char} (ascii : isAscii character = true) :
    fold character = character.toLower := by
  have different (other : Char) (beyond : isAscii other = false) : character ≠ other := by
    rintro rfl
    rw [ascii] at beyond
    cases beyond
  unfold fold
  rw [if_neg, if_neg (different 'ſ' (by decide)), if_neg (different _ (by decide))]
  simp [different 'İ' (by decide), different 'ı' (by decide)]

/-- What folds to ASCII is ASCII or one of four letters. -/
theorem isAscii_or_of_isAscii_fold {character : Char} (ascii : isAscii (fold character) = true) :
    isAscii character = true ∨ character ∈ foldedLetters ∨ character = kelvinSign := by
  unfold fold at ascii
  split at ascii
  · rename_i dotted
    simp only [Bool.or_eq_true, decide_eq_true_eq] at dotted
    rcases dotted with rfl | rfl <;> exact Or.inr (Or.inl (by decide))
  · split at ascii
    · rename_i long
      exact Or.inr (Or.inl (long ▸ by decide))
    · split at ascii
      · rename_i kelvin
        exact Or.inr (Or.inr kelvin)
      · exact Or.inl (isAscii_of_isAscii_toLower ascii)

/-- What follows `lead` in any case follows a text that folds to it. -/
theorem afterFolded?_eq_some_iff {lead text rest : List Char} :
    afterFolded? lead text = some rest ↔
      ∃ written, text = written ++ rest ∧ written.map fold = lead := by
  induction lead generalizing text with
  | nil =>
    rw [afterFolded?, Option.some.injEq]
    constructor
    · rintro rfl
      exact ⟨[], rfl, rfl⟩
    · rintro ⟨written, rfl, folded⟩
      rw [List.map_eq_nil_iff.mp folded, List.nil_append]
  | cons expected lead inductionHypothesis =>
    cases text with
    | nil => simp [afterFolded?]
    | cons character text =>
      rw [afterFolded?]
      constructor
      · intro found
        split at found
        · rename_i same
          obtain ⟨written, rfl, folded⟩ := inductionHypothesis.mp found
          exact ⟨character :: written, rfl, by rw [List.map_cons, same, folded]⟩
        · cases found
      · rintro ⟨written, split, folded⟩
        cases written with
        | nil => cases folded
        | cons first written =>
          obtain ⟨rfl, rest_eq⟩ := List.cons.inj split
          obtain ⟨same, others⟩ := List.cons.inj folded
          rw [if_pos same]
          exact inductionHypothesis.mpr ⟨written, rest_eq, others⟩

/-! ### Small letters -/

theorem lowerFrom_of_isAscii {before characters : List Char}
    (ascii : ∀ character ∈ characters, isAscii character = true) :
    lowerFrom before characters = characters.map Char.toLower := by
  induction characters generalizing before with
  | nil => rfl
  | cons character rest inductionHypothesis =>
    obtain ⟨own, others⟩ := List.forall_mem_cons.mp ascii
    have notSigma : character ≠ 'Σ' := by
      rintro rfl
      exact absurd own (by decide)
    have notDotted : character ≠ 'İ' := by
      rintro rfl
      exact absurd own (by decide)
    have single : lowerCharacter character = character.toLower := if_pos (of_decide_eq_true own)
    rw [lowerFrom, if_neg notSigma, if_neg notDotted, single, inductionHypothesis others]
    rfl

/-- On ASCII, small letters are those of the single characters. -/
theorem lower_of_isAscii {characters : List Char}
    (ascii : ∀ character ∈ characters, isAscii character = true) :
    lower characters = characters.map Char.toLower :=
  lowerFrom_of_isAscii ascii

/-- A character of ASCII that is no capital letter stays in small letters what it is. -/
theorem mem_lowerFrom_of_small {before characters : List Char} {character : Char}
    (member : character ∈ characters) (ascii : isAscii character = true)
    (small : character.toLower = character) : character ∈ lowerFrom before characters := by
  induction characters generalizing before with
  | nil => cases member
  | cons first rest inductionHypothesis =>
    rw [lowerFrom]
    rcases List.mem_cons.mp member with rfl | later
    · refine List.mem_append_left _ ?_
      have notSigma : character ≠ 'Σ' := by
        rintro rfl
        exact absurd ascii (by decide)
      have notDotted : character ≠ 'İ' := by
        rintro rfl
        exact absurd ascii (by decide)
      have single : lowerCharacter character = character :=
        (if_pos (of_decide_eq_true ascii)).trans small
      rw [if_neg notSigma, if_neg notDotted, single]
      exact List.mem_singleton_self character
    · exact List.mem_append_right _ (inductionHypothesis later)

theorem exists_not_isAscii_lowerFrom {before characters : List Char} {character : Char}
    (member : character ∈ characters) (folded : character ∈ foldedLetters) :
    ∃ small ∈ lowerFrom before characters, isAscii small = false := by
  induction characters generalizing before with
  | nil => cases member
  | cons first rest inductionHypothesis =>
    rw [lowerFrom]
    rcases List.mem_cons.mp member with rfl | later
    · simp only [foldedLetters, List.mem_cons, List.not_mem_nil, or_false] at folded
      rcases folded with rfl | rfl | rfl
      · exact ⟨Char.ofNat 0x307, by simp, by decide⟩
      · rw [if_neg (by decide), if_neg (by decide), show lowerCharacter 'ı' = 'ı' by decide]
        exact ⟨'ı', by simp, by decide⟩
      · rw [if_neg (by decide), if_neg (by decide), show lowerCharacter 'ſ' = 'ſ' by decide]
        exact ⟨'ſ', by simp, by decide⟩
    · obtain ⟨small, inRest, beyond⟩ := inductionHypothesis later
      exact ⟨small, List.mem_append_right _ inRest, beyond⟩

/-- One of the three letters leaves a letter beyond ASCII in the lower case of a text. -/
theorem exists_not_isAscii_lower {characters : List Char} {character : Char}
    (member : character ∈ characters) (folded : character ∈ foldedLetters) :
    ∃ small ∈ lower characters, isAscii small = false :=
  exists_not_isAscii_lowerFrom member folded

end LlmTxt.Text

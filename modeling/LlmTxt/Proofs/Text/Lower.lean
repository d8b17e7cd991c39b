/-
This file says what the lower case of a text is like: small letters throughout, which lower case
leaves as they are, so that it comes to nothing to take it twice. This rests on the table of the
capital letters, whose runs are checked against each other once: no small letter of one run is a
capital letter of another, or of the same. Nor is it white space, and so white space stays where it
is, and a text that has no two blanks side by side keeps to that.
-/

import LlmTxt.Proofs.Text.Case
import LlmTxt.Proofs.Text.Trim

namespace LlmTxt.Text

/-! ### The table of the capital letters -/

namespace CaseRun

/-- The small letter of the first capital of a run. -/
def low (run : CaseRun) : Nat :=
  Int.toNat (run.first + run.shift)

/-- The small letter of the last capital of a run. -/
def high (run : CaseRun) : Nat :=
  Int.toNat (run.last + run.shift)

/-- No small letter of a run is a capital of another: all of them lie before it or behind it, or its
capitals are every second character, and they are those between. -/
def avoids (run other : CaseRun) : Bool :=
  Nat.blt run.high other.first || Nat.blt other.last run.low ||
    ((Nat.beq run.step 2 || Nat.beq run.low run.high) && Nat.beq other.step 2 &&
      Nat.beq ((run.low + other.first) % 2) 1)

/-- A code point is no small letter of a run. -/
def isApart (run : CaseRun) (point : Nat) : Bool :=
  Nat.blt point run.low || Nat.blt run.high point

/-- The small letters of a run are code points of characters, on one side of the surrogates. -/
def isSound (run : CaseRun) : Bool :=
  decide (0 ≤ run.first + run.shift) &&
    (run.high < 0xD800 || 0xDFFF < run.low && run.high < 0x110000)

variable {run other : CaseRun} {point small : Nat}

theorem lower?_eq_some_iff :
    run.lower? point = some small ↔
      run.first ≤ point ∧ point ≤ run.last ∧ (point - run.first) % run.step = 0 ∧
        Int.toNat (point + run.shift) = small := by
  unfold lower?
  split
  · rename_i inside
    simp only [Bool.and_eq_true, decide_eq_true_eq, beq_iff_eq] at inside
    rw [Option.some.injEq]
    exact ⟨fun same => ⟨inside.1.1, inside.1.2, inside.2, same⟩, fun whole => whole.2.2.2⟩
  · rename_i outside
    simp only [Bool.and_eq_true, decide_eq_true_eq, beq_iff_eq] at outside
    refine iff_of_false (by rintro ⟨⟩) ?_
    rintro ⟨first, last, step, -⟩
    exact outside ⟨⟨first, last⟩, step⟩

theorem small_bounds (capital : run.lower? point = some small) :
    run.low ≤ small ∧ small ≤ run.high := by
  obtain ⟨fromFirst, toLast, -, rfl⟩ := lower?_eq_some_iff.mp capital
  unfold low high
  omega

theorem lower?_of_avoids (sound : run.isSound = true) (apart : run.avoids other = true)
    (capital : run.lower? point = some small) : other.lower? small = none := by
  refine Option.eq_none_iff_forall_ne_some.mpr fun smaller again => ?_
  obtain ⟨fromLow, toHigh⟩ := small_bounds capital
  obtain ⟨otherFirst, otherLast, otherStep, -⟩ := lower?_eq_some_iff.mp again
  obtain ⟨first, last, step, same⟩ := lower?_eq_some_iff.mp capital
  simp only [isSound, Bool.and_eq_true, decide_eq_true_eq] at sound
  simp only [avoids, Bool.or_eq_true, Bool.and_eq_true, Nat.blt_eq, Nat.beq_eq] at apart
  rcases apart with (before | behind) | ⟨⟨second | single, every⟩, between⟩
  · omega
  · omega
  · rw [every] at otherStep
    rw [second] at step
    unfold low at between
    omega
  · rw [every] at otherStep
    rw [← single] at toHigh
    omega

end CaseRun

theorem caseRuns_isSound : caseRuns.all CaseRun.isSound = true := by
  decide +kernel

/-- No small letter of the table is a capital letter of it. -/
theorem caseRuns_avoid :
    caseRuns.all (fun run => caseRuns.all fun other => run.avoids other) = true := by
  decide +kernel

/-- White space, and the capital letters that the table does not have or not alone. -/
def specialPoints : List Nat :=
  0x130 :: 0x3A3 :: (List.range' 65 26 ++ blankPoints)

theorem caseRuns_isApart :
    caseRuns.all (fun run => specialPoints.all fun point => run.isApart point) = true := by
  decide +kernel

theorem caseRuns_blankPoints :
    caseRuns.all (fun run => blankPoints.all fun point => (run.lower? point).isNone) = true := by
  decide +kernel

/-! ### Small letters of single characters -/

/-- A character that lower case leaves as it is, wherever it stands. -/
structure IsSmall (character : Char) : Prop where
  kept : lowerCharacter character = character
  notSigma : character ≠ 'Σ'
  notDotted : character ≠ 'İ'

variable {character : Char}

theorem isSmall_of_isAscii (ascii : isAscii character = true)
    (small : character.toLower = character) : IsSmall character where
  kept := (if_pos (of_decide_eq_true ascii)).trans small
  notSigma := by
    rintro rfl
    exact absurd ascii (by decide)
  notDotted := by
    rintro rfl
    exact absurd ascii (by decide)

theorem lowerCharacter_of_not_isAscii (beyond : isAscii character = false) :
    lowerCharacter character =
      ((caseRuns.findSome? (·.lower? character.toNat)).map Char.ofNat).getD character := by
  unfold lowerCharacter
  rw [if_neg (of_decide_eq_false beyond)]
  cases caseRuns.findSome? (·.lower? character.toNat) <;> rfl

/-- What is known of the small letter that the table has for a capital. -/
theorem small_of_mem_caseRuns {run : CaseRun} (member : run ∈ caseRuns) {point small : Nat}
    (capital : run.lower? point = some small) :
    small.isValidChar ∧ (∀ other ∈ caseRuns, other.lower? small = none) ∧
      small ∉ specialPoints := by
  have sound := List.all_eq_true.mp caseRuns_isSound run member
  obtain ⟨fromLow, toHigh⟩ := CaseRun.small_bounds capital
  refine ⟨?_, fun other memberOther => ?_, fun special => ?_⟩
  · simp only [CaseRun.isSound, Bool.and_eq_true, Bool.or_eq_true, decide_eq_true_eq] at sound
    unfold Nat.isValidChar
    omega
  · exact CaseRun.lower?_of_avoids sound
      (List.all_eq_true.mp (List.all_eq_true.mp caseRuns_avoid run member) other memberOther) capital
  · have apart := List.all_eq_true.mp (List.all_eq_true.mp caseRuns_isApart run member) small special
    simp only [CaseRun.isApart, Bool.or_eq_true, Nat.blt_eq] at apart
    omega

theorem toLower_of_not_capital (small : character.toNat ∉ List.range' 65 26) :
    character.toLower = character := by
  unfold Char.toLower
  split
  · rename_i capital
    have low : 65 ≤ character.toNat := capital.1
    have high : character.toNat ≤ 90 := capital.2
    exact absurd (List.mem_range'_1.mpr ⟨low, by omega⟩) small
  · rfl

/-- White space is no capital letter. -/
theorem findSome?_of_isBlank (blank : isBlank character = true) :
    caseRuns.findSome? (·.lower? character.toNat) = none := by
  refine List.findSome?_eq_none_iff.mpr fun run member => ?_
  exact Option.isNone_iff_eq_none.mp
    (List.all_eq_true.mp (List.all_eq_true.mp caseRuns_blankPoints run member) _
      (mem_blankPoints blank))

theorem lowerCharacter_of_isBlank (blank : isBlank character = true) :
    lowerCharacter character = character := by
  cases ascii : isAscii character with
  | true =>
    refine (if_pos (of_decide_eq_true ascii)).trans (toLower_of_not_capital fun capital => ?_)
    have small : blankPoints.all (fun point => !(List.range' 65 26).contains point) = true := by
      decide
    simpa [capital] using List.all_eq_true.mp small _ (mem_blankPoints blank)
  | false =>
    rw [lowerCharacter_of_not_isAscii ascii, findSome?_of_isBlank blank]
    rfl

/-- The small letter that the table has for a capital is small, and no white space. -/
theorem isSmall_of_mem_caseRuns {run : CaseRun} (member : run ∈ caseRuns) {point small : Nat}
    (capital : run.lower? point = some small) :
    IsSmall (Char.ofNat small) ∧ isBlank (Char.ofNat small) = false := by
  obtain ⟨valid, notCapital, notSpecial⟩ := small_of_mem_caseRuns member capital
  have same : (Char.ofNat small).toNat = small := by
    rw [Char.ofNat, dif_pos valid]
    rfl
  generalize Char.ofNat small = letter at same
  subst same
  refine ⟨⟨?_, ?_, ?_⟩, Bool.eq_false_iff.mpr fun blank =>
    notSpecial (by simp [specialPoints, mem_blankPoints blank])⟩
  · cases ascii : isAscii letter with
    | true =>
      refine (if_pos (of_decide_eq_true ascii)).trans (toLower_of_not_capital fun capital => ?_)
      exact notSpecial (by simp [specialPoints, capital])
    | false =>
      rw [lowerCharacter_of_not_isAscii ascii, List.findSome?_eq_none_iff.mpr notCapital]
      rfl
  · rintro rfl
    exact notSpecial (by decide)
  · rintro rfl
    exact notSpecial (by decide)

theorem isSmall_toLower (ascii : isAscii character = true) :
    IsSmall character.toLower ∧ isBlank character.toLower = isBlank character := by
  have all : (List.range 128).all (fun point =>
      let small := (Char.ofNat point).toLower
      isAscii small && small.toLower == small && isBlank small == isBlank (Char.ofNat point)) =
        true := by
    decide +kernel
  have own := List.all_eq_true.mp all _ (List.mem_range.mpr (of_decide_eq_true ascii))
  simp only [Char.ofNat_toNat, Bool.and_eq_true, beq_iff_eq] at own
  exact ⟨isSmall_of_isAscii own.1.1 own.1.2, own.2⟩

/-- The small letter of a character is small, and it is white space just where the character is. -/
theorem isSmall_lowerCharacter (notSigma : character ≠ 'Σ') (notDotted : character ≠ 'İ') :
    IsSmall (lowerCharacter character) ∧
      isBlank (lowerCharacter character) = isBlank character := by
  cases ascii : isAscii character with
  | true =>
    rw [lowerCharacter, if_pos (of_decide_eq_true ascii)]
    exact isSmall_toLower ascii
  | false =>
    rw [lowerCharacter_of_not_isAscii ascii]
    cases found : caseRuns.findSome? (·.lower? character.toNat) with
    | none =>
      refine ⟨⟨?_, notSigma, notDotted⟩, rfl⟩
      rw [Option.map_none, Option.getD_none, lowerCharacter_of_not_isAscii ascii, found]
      rfl
    | some small =>
      obtain ⟨run, member, capital⟩ := List.exists_of_findSome?_eq_some found
      have visible : isBlank character = false := by
        refine Bool.eq_false_iff.mpr fun blank => ?_
        rw [findSome?_of_isBlank blank] at found
        cases found
      rw [visible]
      exact isSmall_of_mem_caseRuns member capital

/-! ### Small letters of texts -/

variable {before text : List Char}

/-- What lower case puts in the place of one character: one small character or two, of which the
first is white space just where the character is, and the second is none. -/
theorem exists_lowerFrom_cons (before rest : List Char) (character : Char) :
    ∃ first others, lowerFrom before (character :: rest) =
        first :: (others ++ lowerFrom (character :: before) rest) ∧
      IsSmall first ∧ isBlank first = isBlank character ∧
      (∀ other ∈ others, IsSmall other ∧ isBlank other = false) ∧
      (isBlank character = true → first = character ∧ others = []) := by
  have none : ∀ other ∈ ([] : List Char), IsSmall other ∧ isBlank other = false := by simp
  rw [lowerFrom]
  split
  · rename_i sigma
    subst sigma
    refine ⟨if meetsCased before && !meetsCased rest then 'ς' else 'σ', [], rfl, ?_, ?_, none,
      fun blank => absurd blank (by decide)⟩
    · split <;> exact ⟨by decide +kernel, by decide, by decide⟩
    · split <;> rfl
  · split
    · rename_i dotted
      subst dotted
      refine ⟨'i', [Char.ofNat 0x307], rfl, ⟨by decide, by decide, by decide⟩, rfl, ?_,
        fun blank => absurd blank (by decide)⟩
      intro other member
      rw [List.mem_singleton.mp member]
      exact ⟨⟨by decide +kernel, by decide, by decide⟩, by decide⟩
    · rename_i notSigma notDotted
      obtain ⟨small, blanks⟩ := isSmall_lowerCharacter notSigma notDotted
      exact ⟨lowerCharacter character, [], rfl, small, blanks, none,
        fun blank => ⟨lowerCharacter_of_isBlank blank, rfl⟩⟩

/-- The lower case of a text is made of small characters. -/
theorem isSmall_of_mem_lowerFrom (member : character ∈ lowerFrom before text) :
    IsSmall character := by
  induction text generalizing before with
  | nil => cases member
  | cons own rest inductionHypothesis =>
    obtain ⟨first, others, split, small, -, smalls, -⟩ := exists_lowerFrom_cons before rest own
    rw [split] at member
    rcases List.mem_cons.mp member with rfl | member
    · exact small
    · rcases List.mem_append.mp member with member | later
      · exact (smalls character member).1
      · exact inductionHypothesis later

/-- Lower case leaves a text of small characters as it is. -/
theorem lowerFrom_of_isSmall (small : ∀ character ∈ text, IsSmall character) :
    lowerFrom before text = text := by
  induction text generalizing before with
  | nil => rfl
  | cons first rest inductionHypothesis =>
    obtain ⟨own, others⟩ := List.forall_mem_cons.mp small
    rw [lowerFrom, if_neg own.notSigma, if_neg own.notDotted, own.kept, inductionHypothesis others]
    rfl

theorem lowerFrom_ne_nil (nonempty : text ≠ []) : lowerFrom before text ≠ [] := by
  obtain ⟨first, rest, rfl⟩ := List.exists_cons_of_ne_nil nonempty
  obtain ⟨small, others, split, -⟩ := exists_lowerFrom_cons before rest first
  rw [split]
  exact List.cons_ne_nil _ _

/-- A small character at the end of a text stays there. -/
theorem exists_lowerFrom_concat (before text : List Char) (small : IsSmall character) :
    ∃ front, lowerFrom before (text ++ [character]) = front ++ [character] := by
  induction text generalizing before with
  | nil =>
    exact ⟨[], lowerFrom_of_isSmall fun other member => List.mem_singleton.mp member ▸ small⟩
  | cons first rest inductionHypothesis =>
    obtain ⟨own, others, split, -⟩ := exists_lowerFrom_cons before (rest ++ [character]) first
    obtain ⟨front, whole⟩ := inductionHypothesis (first :: before)
    refine ⟨own :: (others ++ front), ?_⟩
    rw [List.cons_append, split, whole, ← List.append_assoc, List.cons_append]

/-- The lower case of a text begins with white space only where the text does. -/
theorem isBlank_head?_lower (begins : ∀ first ∈ text.head?, isBlank first = false) :
    ∀ first ∈ (lower text).head?, isBlank first = false := by
  cases text with
  | nil => exact fun _ never => absurd never nofun
  | cons own rest =>
    obtain ⟨small, others, split, -, same, -⟩ := exists_lowerFrom_cons [] rest own
    intro first member
    rw [lower, split] at member
    cases member
    rw [same]
    exact begins own rfl

/-- The lower case of a text ends with white space only where the text does. -/
theorem isBlank_getLast?_lowerFrom (ends : ∀ last ∈ text.getLast?, isBlank last = false) :
    ∀ last ∈ (lowerFrom before text).getLast?, isBlank last = false := by
  induction text generalizing before with
  | nil => exact fun _ never => absurd never nofun
  | cons own rest inductionHypothesis =>
    obtain ⟨small, others, split, -, same, visible, -⟩ := exists_lowerFrom_cons before rest own
    rw [split]
    cases rest with
    | nil =>
      intro last member
      rw [lowerFrom, List.append_nil] at member
      rcases List.mem_cons.mp (List.mem_of_getLast? member) with rfl | later
      · rw [same]
        exact ends own rfl
      · exact (visible last later).2
    | cons next more =>
      have nonempty : lowerFrom (own :: before) (next :: more) ≠ [] :=
        lowerFrom_ne_nil (List.cons_ne_nil _ _)
      rw [← List.cons_append, getLast?_append_of_ne_nil _ nonempty]
      exact inductionHypothesis ends

/-- Where no two blanks stand side by side and every blank is a space, this is so in lower case. -/
theorem collapseFrom_lowerFrom {inRun : Bool}
    (collapsed : collapseFrom isBlank ' ' inRun text = text) :
    collapseFrom isBlank ' ' inRun (lowerFrom before text) = lowerFrom before text := by
  induction text generalizing before inRun with
  | nil => rfl
  | cons own rest inductionHypothesis =>
    obtain ⟨first, others, split, -, same, visible, kept⟩ := exists_lowerFrom_cons before rest own
    rw [split]
    cases blank : isBlank own with
    | true =>
      obtain ⟨rfl, rfl⟩ := kept blank
      rw [collapseFrom, if_pos blank] at collapsed ⊢
      cases inRun with
      | true =>
        -- a blank behind a blank would have been dropped
        have longer := congrArg List.length collapsed
        have bound : (collapseFrom isBlank ' ' true rest).length ≤ rest.length :=
          length_collapseFrom_le true rest
        rw [if_pos rfl, List.length_cons] at longer
        omega
      | false =>
        rw [if_neg Bool.false_ne_true] at collapsed ⊢
        obtain ⟨space, behind⟩ := List.cons.inj collapsed
        rw [← space, List.nil_append, inductionHypothesis behind]
    | false =>
      rw [collapseFrom_cons_of_neg blank] at collapsed
      rw [collapseFrom_cons_of_neg (same.trans blank),
        collapseFrom_append_of_none fun other member => (visible other member).2,
        inductionHypothesis (List.cons.inj collapsed).2]

end LlmTxt.Text

/-
This file says where the separators of a version stand. Numbers, builds and local parts have a
letter or digit on both sides of each separator in them. So has what a marker begins with, but the
number behind a marker may be missing while the separator before it is there. Such a separator is
loose: the version ends with it, or another separator follows it. Nothing else comes between letters
and digits, so a version without loose separators has all of them between two letters or digits.
-/

import LlmTxt.Proofs.Text.Pieces
import LlmTxt.Proofs.Version.Grammar
import Mathlib.Data.List.DropRight

namespace LlmTxt.Version

open Text

/-! ### Where separators stand -/

/-- A letter of ASCII, but for its case, or a digit of any script. -/
def isAlphanumeric (character : Char) : Bool :=
  isLetter character || isDigit character

/-- A character that stands between the parts of a version. -/
def isJoint (character : Char) : Bool :=
  isSeparator character || character == '+'

def beginsAlphanumeric (text : List Char) : Bool :=
  text.head?.any isAlphanumeric

def endsAlphanumeric (text : List Char) : Bool :=
  text.getLast?.any isAlphanumeric

/-- The last word of a text is a marker. -/
def endsWithMarker (text : List Char) : Bool :=
  isMarkerWord (text.rtakeWhile isLetter)

/-- A separator directly behind a marker is loose: no letter and no digit follows it. -/
structure IsLoose (before : List Char) (separator : Char) (after : List Char) : Prop where
  separates : isSeparator separator = true
  marked : endsWithMarker before = true
  ends : beginsAlphanumeric after = false

/-- Where separators of a version stand: between two letters or digits, but a loose one has none
behind it, and one that follows a loose one has none before it. -/
structure IsPlaced (before : List Char) (separator : Char) (after : List Char) : Prop where
  behind : endsAlphanumeric before = true ∨
    ∃ front loose, before = front ++ [loose] ∧ IsLoose front loose (separator :: after)
  ahead : beginsAlphanumeric after = true ∨ IsLoose before separator after

/-- Something holds of each separator of a text that follows `before`, with what is before it and
what is behind it. -/
def EachJoint (holds : List Char → Char → List Char → Prop) (before text : List Char) : Prop :=
  ∀ front separator back, text = front ++ separator :: back → isJoint separator = true →
    holds (before ++ front) separator back

/-- Every separator of a text stands between two letters or digits. -/
def StandBetween (text : List Char) : Prop :=
  EachJoint (fun before _ after =>
    endsAlphanumeric before = true ∧ beginsAlphanumeric after = true) [] text

/-- No separator of a text is loose. -/
def NoneLoose (text : List Char) : Prop :=
  EachJoint (fun before separator after => ¬IsLoose before separator after) [] text

variable {holds : List Char → Char → List Char → Prop} {character : Char}
  {before text run runs rest word number digits : List Char}

/-! ### Letters, digits and separators -/

theorem isAlphanumeric_of_isLetter (letter : isLetter character = true) :
    isAlphanumeric character = true := by
  rw [isAlphanumeric, letter, Bool.true_or]

theorem isAlphanumeric_of_isDigit (digit : isDigit character = true) :
    isAlphanumeric character = true := by
  rw [isAlphanumeric, digit, Bool.or_true]

theorem isLetter_of_isDigit (digit : isDigit character = true) : isLetter character = false := by
  refine Bool.eq_false_iff.mpr fun letter => ?_
  rw [isDigit_of_isLetter letter] at digit
  cases digit

theorem isLetter_of_isSeparator (separates : isSeparator character = true) :
    isLetter character = false := by
  refine Bool.eq_false_iff.mpr fun letter => ?_
  rw [isSeparator_of_isLetter letter] at separates
  cases separates

theorem isDigit_of_ascii (digit : character.isDigit = true) : isDigit character = true := by
  have bounds : 48 ≤ character.toNat ∧ character.toNat ≤ 57 := by
    simpa [Char.isDigit, UInt32.le_iff_toNat_le] using digit
  have ascii : character.toNat < 128 := by omega
  rw [isDigit, if_pos ascii, digit]

theorem isAlphanumeric_of_isLetterOrDigit (own : isLetterOrDigit character = true) :
    isAlphanumeric character = true := by
  rcases Bool.or_eq_true_iff.mp own with letter | digit
  · exact isAlphanumeric_of_isLetter letter
  · exact isAlphanumeric_of_isDigit (isDigit_of_ascii digit)

theorem isAlphanumeric_of_isJoint (joins : isJoint character = true) :
    isAlphanumeric character = false := by
  rcases Bool.or_eq_true_iff.mp joins with separates | plus
  · rcases eq_of_isSeparator separates with rfl | rfl | rfl <;> decide
  · rw [beq_iff_eq.mp plus]
    decide

theorem isJoint_of_isAlphanumeric (own : isAlphanumeric character = true) :
    isJoint character = false := by
  refine Bool.eq_false_iff.mpr fun joins => ?_
  rw [isAlphanumeric_of_isJoint joins] at own
  cases own

theorem isJoint_of_isSeparator (separates : isSeparator character = true) :
    isJoint character = true := by
  rw [isJoint, separates, Bool.true_or]

/-! ### One separator after the other -/

theorem eachJoint_nil : EachJoint holds before [] := by
  intro front separator back split
  cases front <;> cases split

theorem eachJoint_cons :
    EachJoint holds before (character :: rest) ↔
      (isJoint character = true → holds before character rest) ∧
        EachJoint holds (before ++ [character]) rest := by
  constructor
  · intro each
    refine ⟨fun joins => ?_, fun front separator back split joins => ?_⟩
    · simpa using each [] character rest rfl joins
    · simpa using each (character :: front) separator back (congrArg (character :: ·) split) joins
  · rintro ⟨own, others⟩ front separator back split joins
    cases front with
    | nil =>
      obtain ⟨rfl, rfl⟩ := List.cons.inj split
      simpa using own joins
    | cons first front =>
      obtain ⟨rfl, rfl⟩ := List.cons.inj split
      simpa using others front separator back rfl joins

/-- Letters and digits are passed over. -/
theorem eachJoint_append (plain : ∀ character ∈ run, isAlphanumeric character = true) :
    EachJoint holds before (run ++ rest) ↔ EachJoint holds (before ++ run) rest := by
  induction run generalizing before with
  | nil => simp
  | cons character run inductionHypothesis =>
    obtain ⟨own, others⟩ := List.forall_mem_cons.mp plain
    have noJoint : isJoint character ≠ true := by
      rw [isJoint_of_isAlphanumeric own]
      exact Bool.false_ne_true
    rw [List.cons_append, eachJoint_cons, inductionHypothesis others, List.append_assoc,
      List.singleton_append]
    exact and_iff_right fun joins => absurd joins noJoint

theorem endsAlphanumeric_concat :
    endsAlphanumeric (before ++ [character]) = isAlphanumeric character := by
  rw [endsAlphanumeric, List.getLast?_concat, Option.any_some]

/-! ### What the next part of a version can follow -/

/-- The next part of a version can follow a text: this ends with a letter or digit, or with a
separator directly behind a marker. -/
def CanGoOn (before : List Char) : Prop :=
  endsAlphanumeric before = true ∨ ∃ front last, before = front ++ [last] ∧
    isSeparator last = true ∧ endsWithMarker front = true

/-- Two texts do not run together in a word. -/
def AreParted (before text : List Char) : Prop :=
  ∀ last ∈ before.getLast?, isLetter last = true → ∀ first ∈ text.head?, isLetter first = false

theorem CanGoOn.isPlaced (goesOn : CanGoOn before) (joins : isJoint character = true)
    (begins : beginsAlphanumeric rest = true) : IsPlaced before character rest where
  behind := by
    rcases goesOn with ends | ⟨front, last, split, separates, marked⟩
    · exact Or.inl ends
    · exact Or.inr ⟨front, last, split, separates, marked, isAlphanumeric_of_isJoint joins⟩
  ahead := Or.inl begins

theorem areParted_concat (noLetter : isLetter character = false) :
    AreParted (before ++ [character]) text := by
  intro last member letter
  rw [List.getLast?_concat, Option.mem_some] at member
  rw [← member, noLetter] at letter
  cases letter

section Runs

variable {inRun joins : Char → Bool}

theorem IsRun.exists_concat (isRun : IsRun inRun run) (before : List Char) :
    ∃ front last, before ++ run = front ++ [last] ∧ inRun last = true := by
  refine ⟨before ++ run.dropLast, run.getLast isRun.nonempty, ?_,
    isRun.all _ (List.getLast_mem isRun.nonempty)⟩
  rw [List.append_assoc, List.dropLast_concat_getLast]

/-- Runs end with a character of their class. -/
theorem AreRuns.exists_concat (areRuns : AreRuns inRun joins runs) (before : List Char) :
    ∃ front last, before ++ runs = front ++ [last] ∧ inRun last = true := by
  induction areRuns generalizing before with
  | single isRun => exact isRun.exists_concat before
  | @joined run rest joint _ _ _ inductionHypothesis =>
    rw [show before ++ (run ++ joint :: rest) = (before ++ run ++ [joint]) ++ rest by simp]
    exact inductionHypothesis _

variable (inside : ∀ character, inRun character = true → isAlphanumeric character = true)

include inside

theorem IsRun.opens (isRun : IsRun inRun run) : beginsAlphanumeric (run ++ rest) = true := by
  obtain ⟨first, others, rfl⟩ := List.exists_cons_of_ne_nil isRun.nonempty
  exact inside first (isRun.all first List.mem_cons_self)

theorem IsRun.closes (isRun : IsRun inRun run) : endsAlphanumeric (before ++ run) = true := by
  obtain ⟨front, last, split, own⟩ := isRun.exists_concat before
  rw [split, endsAlphanumeric_concat, inside last own]

theorem AreRuns.opens (areRuns : AreRuns inRun joins runs) :
    beginsAlphanumeric (runs ++ rest) = true := by
  cases areRuns with
  | single isRun => exact isRun.opens inside
  | joined isRun =>
    rw [List.append_assoc]
    exact isRun.opens inside

theorem AreRuns.closes (areRuns : AreRuns inRun joins runs) :
    endsAlphanumeric (before ++ runs) = true := by
  obtain ⟨front, last, split, own⟩ := areRuns.exists_concat before
  rw [split, endsAlphanumeric_concat, inside last own]

/-- The joints of runs stand between two of them. -/
theorem AreRuns.eachJoint (areRuns : AreRuns inRun joins runs)
    (others : EachJoint IsPlaced (before ++ runs) rest) :
    EachJoint IsPlaced before (runs ++ rest) := by
  induction areRuns generalizing before with
  | single isRun =>
    exact (eachJoint_append fun own member => inside own (isRun.all own member)).mpr others
  | @joined run further joint isRun _ areRuns inductionHypothesis =>
    rw [List.append_assoc, List.cons_append,
      eachJoint_append fun own member => inside own (isRun.all own member), eachJoint_cons]
    exact ⟨fun _ => ⟨Or.inl (isRun.closes inside), Or.inl (areRuns.opens inside)⟩,
      inductionHypothesis (by simpa using others)⟩

/-- A build and a local part are runs behind a joint. -/
theorem AreRuns.eachJoint_behind (areRuns : AreRuns inRun joins runs) (goesOn : CanGoOn before)
    (others : EachJoint IsPlaced (before ++ character :: runs) rest) :
    EachJoint IsPlaced before (character :: (runs ++ rest)) :=
  eachJoint_cons.mpr ⟨fun joined => goesOn.isPlaced joined (areRuns.opens inside),
    areRuns.eachJoint inside (by simpa using others)⟩

end Runs

/-! ### From part to part -/

theorem eachJoint_ending {build label : List Char} (isBuild : IsBuild build)
    (isLocal : IsLocal label) (goesOn : CanGoOn before) :
    EachJoint IsPlaced before (build ++ label) := by
  have inside (own : Char) (read : isLetterOrDigit own = true) :=
    isAlphanumeric_of_isLetterOrDigit read
  have ofLabel {before : List Char} (goesOn : CanGoOn before) :
      EachJoint IsPlaced before label := by
    cases isLocal with
    | nothing => exact eachJoint_nil
    | @runs runs areRuns =>
      rw [← List.append_nil ('+' :: runs)]
      exact areRuns.eachJoint_behind inside goesOn eachJoint_nil
  cases isBuild with
  | nothing => exact ofLabel goesOn
  | @runs runs areRuns =>
    refine areRuns.eachJoint_behind inside goesOn (ofLabel (Or.inl ?_))
    rw [show before ++ '-' :: runs = (before ++ ['-']) ++ runs by simp]
    exact areRuns.closes inside

/-- The number of a marker, and what follows it. -/
theorem eachJoint_number (isNumber : IsNumber number) (marked : endsWithMarker before = true)
    (ends : endsAlphanumeric before = true)
    (alone : ∀ first ∈ (number ++ rest).head?, isLetter first = false)
    (others : ∀ {front : List Char}, CanGoOn front → AreParted front rest →
      EachJoint IsPlaced front rest) :
    EachJoint IsPlaced before (number ++ rest) := by
  obtain ⟨lead, digits, rfl, isLead, all⟩ := isNumber
  have plain own (member : own ∈ digits) := isAlphanumeric_of_isDigit (all own member)
  have behindDigits (front : List Char) (some : digits ≠ []) :
      EachJoint IsPlaced (front ++ digits) rest := by
    obtain ⟨earlier, last, split, digit⟩ := IsRun.exists_concat ⟨some, all⟩ front
    rw [split]
    refine others (Or.inl ?_) (areParted_concat (isLetter_of_isDigit digit))
    rw [endsAlphanumeric_concat, isAlphanumeric_of_isDigit digit]
  cases isLead with
  | nothing =>
    rw [List.nil_append] at alone ⊢
    rw [eachJoint_append plain]
    cases digits with
    | nil =>
      rw [List.append_nil]
      exact others (Or.inl ends) fun _ _ _ => alone
    | cons => exact behindDigits before (List.cons_ne_nil _ _)
  | @single separator separates =>
    rw [List.append_assoc, List.singleton_append, eachJoint_cons, eachJoint_append plain]
    refine ⟨fun _ => ⟨Or.inl ends, ?_⟩, ?_⟩
    · cases begins : beginsAlphanumeric (digits ++ rest) with
      | true => exact Or.inl rfl
      | false => exact Or.inr ⟨separates, marked, begins⟩
    · cases digits with
      | nil =>
        -- the separator is loose if another one follows, or nothing
        rw [List.append_nil]
        exact others (Or.inr ⟨before, separator, rfl, separates, marked⟩)
          (areParted_concat (isLetter_of_isSeparator separates))
      | cons => exact behindDigits _ (List.cons_ne_nil _ _)

theorem endsWithMarker_append (isWord : isMarkerWord word = true)
    (parted : AreParted before word) : endsWithMarker (before ++ word) = true := by
  have isRun := isRun_of_isMarkerWord isWord
  have ends : ∀ last ∈ before.reverse.head?, isLetter last = false := by
    intro last member
    rw [List.head?_reverse] at member
    refine Bool.eq_false_iff.mpr fun letter => ?_
    obtain ⟨first, others, rfl⟩ := List.exists_cons_of_ne_nil isRun.nonempty
    have noLetter := parted last member letter first rfl
    rw [isRun.all first List.mem_cons_self] at noLetter
    cases noLetter
  have backwards : ∀ character ∈ word.reverse, isLetter character = true :=
    fun own member => isRun.all own (List.mem_reverse.mp member)
  rw [endsWithMarker, List.rtakeWhile, List.reverse_append, takeWhile_append_of_all backwards ends,
    List.reverse_reverse, isWord]

/-- What follows the numbers of a version has its separators where they belong. -/
theorem IsTail.eachJoint (isTail : IsTail text) (goesOn : CanGoOn before)
    (parted : AreParted before text) : EachJoint IsPlaced before text := by
  induction isTail generalizing before with
  | ending isBuild isLocal => exact eachJoint_ending isBuild isLocal goesOn
  | @marker lead word number rest isLead isWord alone isNumber _ inductionHypothesis =>
    have isRun := isRun_of_isMarkerWord isWord
    have inside (own : Char) (letter : isLetter own = true) := isAlphanumeric_of_isLetter letter
    have behindLead {front : List Char} (parted : AreParted front word) :
        EachJoint IsPlaced front (word ++ (number ++ rest)) := by
      rw [eachJoint_append fun own member => inside own (isRun.all own member)]
      exact eachJoint_number isNumber (endsWithMarker_append isWord parted)
        (isRun.closes inside) alone inductionHypothesis
    cases isLead with
    | nothing =>
      refine behindLead fun last member letter first begins => ?_
      refine parted last member letter first ?_
      rw [List.nil_append, List.head?_append_of_ne_nil _ isRun.nonempty]
      exact begins
    | @single separator separates =>
      rw [List.singleton_append, eachJoint_cons]
      exact ⟨fun joins => goesOn.isPlaced joins (isRun.opens inside),
        behindLead (areParted_concat (isLetter_of_isSeparator separates))⟩

theorem IsVersion.eachJoint (isVersion : IsVersion text) : EachJoint IsPlaced [] text := by
  cases isVersion with
  | @parts sign numbers tail isSign areRuns isTail =>
    have inside (own : Char) (digit : isDigit own = true) := isAlphanumeric_of_isDigit digit
    have plain : ∀ own ∈ sign, isAlphanumeric own = true := by
      cases isSign with
      | nothing => simp
      | single sign => simpa using isAlphanumeric_of_isLetter (isLetter_of_isSignLetter sign)
    rw [eachJoint_append plain, List.nil_append]
    refine areRuns.eachJoint inside (isTail.eachJoint (Or.inl (areRuns.closes inside)) ?_)
    obtain ⟨front, last, split, digit⟩ := areRuns.exists_concat sign
    rw [split]
    exact areParted_concat (isLetter_of_isDigit digit)

end LlmTxt.Version

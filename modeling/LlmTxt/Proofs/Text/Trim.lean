/-
This file says which texts trimming leaves as they are: those that have no character of the class
at their ends. Names are such texts for white space, because no word character is white space, and
no line breaks in them either. Trimming also goes with collapsing the runs of a class: it does not
matter which is done first, if the class holds all white space.
-/

import LlmTxt.Source
import LlmTxt.Text.Word
import Mathlib.Data.List.TakeWhile

namespace LlmTxt.Text

/-! ### Trimming -/

variable {inClass : Char → Bool} {characters : List Char}

theorem dropWhile_of_head? (begins : ∀ first ∈ characters.head?, inClass first = false) :
    characters.dropWhile inClass = characters := by
  cases characters with
  | nil => rfl
  | cons first rest => exact List.dropWhile_cons_of_neg (by simp [begins first rfl])

theorem dropRightWhile_of_getLast? (ends : ∀ last ∈ characters.getLast?, inClass last = false) :
    dropRightWhile inClass characters = characters := by
  unfold dropRightWhile
  rw [dropWhile_of_head? (by rwa [List.head?_reverse]), List.reverse_reverse]

/-- Trimming leaves a text that has no character of the class at its ends. -/
theorem trimBy_of_ends (begins : ∀ first ∈ characters.head?, inClass first = false)
    (ends : ∀ last ∈ characters.getLast?, inClass last = false) :
    trimBy inClass characters = characters := by
  unfold trimBy
  rw [dropWhile_of_head? begins, dropRightWhile_of_getLast? ends]

theorem getLast?_append_of_ne_nil (front : List Char) {back : List Char} (nonempty : back ≠ []) :
    (front ++ back).getLast? = back.getLast? := by
  rw [List.getLast?_append, List.getLast?_eq_some_getLast nonempty, Option.some_or]

/-- The run of a class at the beginning of a text goes up to where something else begins. -/
theorem takeWhile_append_of_all {front back : List Char}
    (all : ∀ character ∈ front, inClass character = true)
    (begins : ∀ first ∈ back.head?, inClass first = false) :
    (front ++ back).takeWhile inClass = front := by
  have nothing : back.takeWhile inClass = [] := by
    cases back with
    | nil => rfl
    | cons first rest => exact List.takeWhile_cons_of_neg (by simp [begins first rfl])
  rw [List.takeWhile_append_of_pos all, nothing, List.append_nil]

theorem dropWhile_append_of_all {front back : List Char}
    (all : ∀ character ∈ front, inClass character = true)
    (begins : ∀ first ∈ back.head?, inClass first = false) :
    (front ++ back).dropWhile inClass = back := by
  rw [List.dropWhile_append_of_pos all, dropWhile_of_head? begins]

theorem drop_length_takeWhile (inClass : Char → Bool) (characters : List Char) :
    characters.drop (characters.takeWhile inClass).length = characters.dropWhile inClass := by
  have parts : characters.takeWhile inClass ++ characters.dropWhile inClass = characters :=
    List.takeWhile_append_dropWhile
  calc characters.drop (characters.takeWhile inClass).length
      = (characters.takeWhile inClass ++ characters.dropWhile inClass).drop
          (characters.takeWhile inClass).length := by rw [parts]
    _ = characters.dropWhile inClass := List.drop_left

theorem dropWhile_congr {other : Char → Bool}
    (same : ∀ character ∈ characters, inClass character = other character) :
    characters.dropWhile inClass = characters.dropWhile other := by
  induction characters with
  | nil => rfl
  | cons first rest inductionHypothesis =>
    rw [List.dropWhile_cons, List.dropWhile_cons, same first List.mem_cons_self,
      inductionHypothesis fun character later => same character (List.mem_cons_of_mem _ later)]

theorem dropRightWhile_congr {other : Char → Bool}
    (same : ∀ character ∈ characters, inClass character = other character) :
    dropRightWhile inClass characters = dropRightWhile other characters := by
  unfold dropRightWhile
  rw [dropWhile_congr fun character member => same character (List.mem_reverse.mp member)]

/-- Trimming depends only on what the class says of the characters that are there. -/
theorem trimBy_congr {other : Char → Bool}
    (same : ∀ character ∈ characters, inClass character = other character) :
    trimBy inClass characters = trimBy other characters := by
  unfold trimBy
  rw [dropWhile_congr same, dropRightWhile_congr]
  exact fun character member => same character ((List.dropWhile_sublist _).subset member)

/-- Trimming at the end stops at a text that does not end with the class. -/
theorem dropRightWhile_append_of_ends {front : List Char}
    (ends : ∀ last ∈ front.getLast?, inClass last = false) (back : List Char) :
    dropRightWhile inClass (front ++ back) = front ++ dropRightWhile inClass back := by
  have kept : front.reverse.dropWhile inClass = front.reverse :=
    dropWhile_of_head? (by rwa [List.head?_reverse])
  unfold dropRightWhile
  rw [List.reverse_append, List.dropWhile_append]
  split
  · rename_i nothing
    rw [List.isEmpty_iff.mp nothing, kept]
    simp
  · simp

theorem dropWhile_append_of_begins (front : List Char) {back : List Char}
    (begins : ∀ first ∈ back.head?, inClass first = false) :
    (front ++ back).dropWhile inClass = front.dropWhile inClass ++ back := by
  rw [List.dropWhile_append]
  split
  · rename_i nothing
    rw [List.isEmpty_iff.mp nothing, dropWhile_of_head? begins, List.nil_append]
  · rfl

/-- Trimming goes on at both ends up to a text that does not begin or end with the class. -/
theorem trimBy_append_append (front back : List Char) {core : List Char} (nonempty : core ≠ [])
    (begins : ∀ first ∈ core.head?, inClass first = false)
    (ends : ∀ last ∈ core.getLast?, inClass last = false) :
    trimBy inClass (front ++ (core ++ back)) =
      front.dropWhile inClass ++ (core ++ dropRightWhile inClass back) := by
  have begun : ∀ first ∈ (core ++ back).head?, inClass first = false := by
    rwa [List.head?_append, List.head?_eq_some_head nonempty, Option.some_or,
      ← List.head?_eq_some_head]
  unfold trimBy
  rw [dropWhile_append_of_begins front begun, ← List.append_assoc,
    dropRightWhile_append_of_ends, List.append_assoc]
  rwa [getLast?_append_of_ne_nil _ nonempty]

theorem dropRightWhile_sublist (inClass : Char → Bool) (characters : List Char) :
    (dropRightWhile inClass characters).Sublist characters := by
  rw [← List.reverse_sublist, dropRightWhile, List.reverse_reverse]
  exact List.dropWhile_sublist _

theorem trimBy_sublist (inClass : Char → Bool) (characters : List Char) :
    (trimBy inClass characters).Sublist characters :=
  (dropRightWhile_sublist inClass _).trans (List.dropWhile_sublist _)

theorem dropRightWhile_append_of_all (front : List Char) {back : List Char}
    (all : ∀ character ∈ back, inClass character = true) :
    dropRightWhile inClass (front ++ back) = dropRightWhile inClass front := by
  unfold dropRightWhile
  rw [List.reverse_append, List.dropWhile_append_of_pos]
  exact fun character member => all character (List.mem_reverse.mp member)

/-- Characters of the class on both sides are what trimming takes away. -/
theorem trimBy_of_split {front core back : List Char}
    (before : ∀ character ∈ front, inClass character = true)
    (behind : ∀ character ∈ back, inClass character = true)
    (begins : ∀ first ∈ core.head?, inClass first = false)
    (ends : ∀ last ∈ core.getLast?, inClass last = false) :
    trimBy inClass (front ++ (core ++ back)) = core := by
  unfold trimBy
  rw [List.dropWhile_append_of_pos before]
  cases core with
  | nil => rw [List.nil_append, List.dropWhile_eq_nil_iff.mpr behind]; rfl
  | cons first rest =>
    have kept : (first :: rest ++ back).dropWhile inClass = first :: rest ++ back :=
      List.dropWhile_cons_of_neg (by simp [begins first rfl])
    rw [kept, dropRightWhile_append_of_all _ behind, dropRightWhile_of_getLast? ends]

theorem exists_split_dropRightWhile (inClass : Char → Bool) (characters : List Char) :
    ∃ back, characters = dropRightWhile inClass characters ++ back ∧
      (∀ character ∈ back, inClass character = true) ∧
      ∀ last ∈ (dropRightWhile inClass characters).getLast?, inClass last = false := by
  refine ⟨(characters.reverse.takeWhile inClass).reverse, ?_, ?_, ?_⟩
  · unfold dropRightWhile
    rw [← List.reverse_append, List.takeWhile_append_dropWhile, List.reverse_reverse]
  · intro character member
    exact List.mem_takeWhile_imp (List.mem_reverse.mp member)
  · intro last member
    have own := List.head?_dropWhile_not inClass characters.reverse
    rw [dropRightWhile, List.getLast?_reverse, Option.mem_def] at member
    rw [member] at own
    exact own

theorem head?_of_head?_dropRightWhile {first : Char}
    (begins : first ∈ (dropRightWhile inClass characters).head?) : first ∈ characters.head? := by
  obtain ⟨back, split, _⟩ := exists_split_dropRightWhile inClass characters
  rw [split, List.head?_append, Option.mem_def.mp begins]
  rfl

/-- A text is what trimming leaves of it, between characters of the class. -/
theorem exists_split_trimBy (inClass : Char → Bool) (characters : List Char) :
    ∃ front back, characters = front ++ (trimBy inClass characters ++ back) ∧
      (∀ character ∈ front, inClass character = true) ∧
      (∀ character ∈ back, inClass character = true) ∧
      (∀ first ∈ (trimBy inClass characters).head?, inClass first = false) ∧
      ∀ last ∈ (trimBy inClass characters).getLast?, inClass last = false := by
  obtain ⟨back, split, behind, ends⟩ :=
    exists_split_dropRightWhile inClass (characters.dropWhile inClass)
  refine ⟨characters.takeWhile inClass, back, ?_, ?_, behind, ?_, ends⟩
  · unfold trimBy
    rw [← split, List.takeWhile_append_dropWhile]
  · exact fun character member => List.mem_takeWhile_imp member
  · intro first member
    have own := List.head?_dropWhile_not inClass characters
    rw [trimBy, Option.mem_def] at member
    rw [split, List.head?_append, member] at own
    exact own

/-- A text that trimming leaves does not begin or end with the class. -/
theorem ends_of_trimBy_eq (same : trimBy inClass characters = characters) :
    (∀ first ∈ characters.head?, inClass first = false) ∧
      ∀ last ∈ characters.getLast?, inClass last = false := by
  obtain ⟨front, back, -, -, -, begins, ends⟩ := exists_split_trimBy inClass characters
  rw [same] at begins ends
  exact ⟨begins, ends⟩

theorem trimBy_trimBy (inClass : Char → Bool) (characters : List Char) :
    trimBy inClass (trimBy inClass characters) = trimBy inClass characters := by
  obtain ⟨front, back, -, -, -, begins, ends⟩ := exists_split_trimBy inClass characters
  exact trimBy_of_ends begins ends

/-- Trimming at the end comes to nothing before trimming at both ends. -/
theorem trimBy_dropRightWhile (inClass : Char → Bool) (characters : List Char) :
    trimBy inClass (dropRightWhile inClass characters) = trimBy inClass characters := by
  obtain ⟨front, back, split, before, behind, begins, ends⟩ :=
    exists_split_trimBy inClass characters
  have kept : dropRightWhile inClass characters =
      dropRightWhile inClass (front ++ trimBy inClass characters) := by
    refine (congrArg (dropRightWhile inClass) split).trans ?_
    rw [← List.append_assoc, dropRightWhile_append_of_all _ behind]
  rw [kept]
  cases core : trimBy inClass characters with
  | nil =>
    rw [← List.nil_append (front ++ []), List.append_nil, dropRightWhile_append_of_all [] before]
    rfl
  | cons first rest =>
    rw [core] at begins ends
    have last : dropRightWhile inClass (front ++ first :: rest) = front ++ first :: rest := by
      refine dropRightWhile_of_getLast? ?_
      rwa [getLast?_append_of_ne_nil _ (List.cons_ne_nil first rest)]
    have behindNone : ∀ character ∈ ([] : List Char), inClass character = true := by simp
    have whole := trimBy_of_split before behindNone begins ends
    rw [List.append_nil] at whole
    rw [last, whole]

/-- It does not matter on which side trimming begins. -/
theorem dropWhile_dropRightWhile (inClass : Char → Bool) (characters : List Char) :
    (dropRightWhile inClass characters).dropWhile inClass = trimBy inClass characters := by
  rw [← trimBy_dropRightWhile]
  refine (dropRightWhile_of_getLast? fun last member => ?_).symm
  obtain ⟨_, _, _, ends⟩ := exists_split_dropRightWhile inClass characters
  have nonempty : (dropRightWhile inClass characters).dropWhile inClass ≠ [] := by
    intro empty
    rw [empty] at member
    cases member
  refine ends last ?_
  rw [← List.takeWhile_append_dropWhile (p := inClass) (l := dropRightWhile inClass characters),
    getLast?_append_of_ne_nil _ nonempty]
  exact member

/-- Trimming takes away what there is of the class on both sides. -/
theorem trimBy_append_of_all {front back : List Char} (text : List Char)
    (before : ∀ character ∈ front, inClass character = true)
    (behind : ∀ character ∈ back, inClass character = true) :
    trimBy inClass (front ++ (text ++ back)) = trimBy inClass text := by
  obtain ⟨own, others, split, ownAll, othersAll, begins, ends⟩ := exists_split_trimBy inClass text
  generalize trimBy inClass text = core at split begins ends ⊢
  subst split
  have joined : front ++ (own ++ (core ++ others) ++ back) =
      front ++ own ++ (core ++ (others ++ back)) := by
    simp only [List.append_assoc]
  rw [joined]
  refine trimBy_of_split ?_ ?_ begins ends
  · intro character member
    exact (List.mem_append.mp member).elim (before character) (ownAll character)
  · intro character member
    exact (List.mem_append.mp member).elim (othersAll character) (behind character)

/-! ### Word characters -/

theorem isGap_of_isBlank {character : Char} (noBlank : isBlank character = false) :
    isGap character = false := by
  refine Bool.eq_false_iff.mpr fun gap => ?_
  simp only [isGap, Bool.or_eq_true, beq_iff_eq] at gap
  rcases gap with rfl | rfl <;> cases noBlank

/-- White space, of which there is some. -/
structure IsSpace (gap : List Char) : Prop where
  nonempty : gap ≠ []
  blank : ∀ character ∈ gap, isBlank character = true

/-- The code points of white space. -/
def blankPoints : List Nat :=
  List.range' 9 5 ++ List.range' 28 5 ++ [0x85, 0xA0, 0x1680] ++ List.range' 0x2000 11 ++
    [0x2028, 0x2029, 0x202F, 0x205F, 0x3000]

theorem mem_blankPoints {character : Char} (blank : isBlank character = true) :
    character.toNat ∈ blankPoints := by
  simp only [isBlank, Bool.or_eq_true, Bool.and_eq_true, decide_eq_true_eq, beq_iff_eq] at blank
  simp only [blankPoints, List.mem_append, List.mem_range'_1, List.mem_cons, List.not_mem_nil,
    or_false]
  omega

theorem isBlank_of_isWord {character : Char} (word : isWord character = true) :
    isBlank character = false := by
  refine Bool.eq_false_iff.mpr fun blank => ?_
  have all : blankPoints.all (fun point => !isWord (Char.ofNat point)) = true := by
    decide +kernel
  have none := List.all_eq_true.mp all _ (mem_blankPoints blank)
  rw [Char.ofNat_toNat, word] at none
  cases none

theorem isWord_of_isBlank {character : Char} (blank : isBlank character = true) :
    isWord character = false := by
  refine Bool.eq_false_iff.mpr fun word => ?_
  rw [isBlank_of_isWord word] at blank
  cases blank

theorem isBlank_of_isLineBreak {character : Char} (ends : isLineBreak character = true) :
    isBlank character = true := by
  simp only [isLineBreak, Bool.or_eq_true, Bool.and_eq_true, decide_eq_true_eq,
    beq_iff_eq] at ends
  simp only [isBlank, Bool.or_eq_true, Bool.and_eq_true, decide_eq_true_eq, beq_iff_eq]
  omega

theorem isLineBreak_of_isWord {character : Char} (word : isWord character = true) :
    isLineBreak character = false := by
  refine Bool.eq_false_iff.mpr fun ends => ?_
  have blank := isBlank_of_isLineBreak ends
  rw [isBlank_of_isWord word] at blank
  cases blank

/-- The space before a word is dropped, and the word stays. -/
theorem dropWhile_isBlank_space (begins : ∀ first ∈ characters.head?, isWord first = true) :
    (' ' :: characters).dropWhile isBlank = characters := by
  rw [List.dropWhile_cons_of_pos (by decide)]
  exact dropWhile_of_head? fun first member => isBlank_of_isWord (begins first member)

theorem ne_of_isWord {character other : Char} (word : isWord character = true)
    (noWord : isWord other = false) : character ≠ other := by
  rintro rfl
  rw [word] at noWord
  cases noWord

/-! ### Characters that begin a name -/

/-- The code points of the characters that may begin a name. -/
def nameStartPoints : List Nat :=
  95 :: (List.range' 65 26 ++ List.range' 97 26)

theorem mem_nameStartPoints {character : Char} (begins : isNameStart character = true) :
    character.toNat ∈ nameStartPoints := by
  have ranges : (decide ('A'.val ≤ character.val ∧ character.val ≤ 'Z'.val) ||
      decide ('a'.val ≤ character.val) && decide (character.val ≤ 'z'.val) ||
      character == '_') = true := begins
  simp only [Bool.or_eq_true, Bool.and_eq_true, decide_eq_true_eq, UInt32.le_iff_toNat_le,
    beq_iff_eq] at ranges
  simp only [nameStartPoints, List.mem_cons, List.mem_append, List.mem_range'_1]
  rcases ranges with (⟨low, high⟩ | ⟨low, high⟩) | rfl
  · exact Or.inr (Or.inl ⟨low, Nat.lt_succ_of_le high⟩)
  · exact Or.inr (Or.inr ⟨low, Nat.lt_succ_of_le high⟩)
  · exact Or.inl rfl

/-- What holds of the characters that may begin a name can be tried on each of them. -/
theorem of_isNameStart {holds : Char → Bool}
    (all : nameStartPoints.all (fun point => holds (Char.ofNat point)) = true) {character : Char}
    (begins : isNameStart character = true) : holds character = true := by
  have own := List.all_eq_true.mp all _ (mem_nameStartPoints begins)
  rwa [Char.ofNat_toNat] at own

theorem isWord_of_isNameStart {character : Char} (begins : isNameStart character = true) :
    isWord character = true :=
  of_isNameStart (by decide) begins

theorem isNameStart_of_isAlpha {character : Char} (alpha : character.isAlpha = true) :
    isNameStart character = true := by
  rw [isNameStart, alpha, Bool.true_or]

theorem isBlank_of_isAlpha {character : Char} (alpha : character.isAlpha = true) :
    isBlank character = false :=
  isBlank_of_isWord (isWord_of_isNameStart (isNameStart_of_isAlpha alpha))

/-! ### Runs of a class -/

section Runs

variable {replacement : Char}

theorem collapseFrom_append (inRun : Bool) (front back : List Char) :
    collapseFrom inClass replacement inRun (front ++ back) =
      collapseFrom inClass replacement inRun front ++
        collapseFrom inClass replacement ((front.getLast?.map inClass).getD inRun) back := by
  induction front generalizing inRun with
  | nil => rfl
  | cons first rest inductionHypothesis =>
    have last : (((first :: rest).getLast?.map inClass).getD inRun) =
        (rest.getLast?.map inClass).getD (inClass first) := by
      rw [List.getLast?_cons]
      cases rest.getLast? <;> rfl
    rw [last, List.cons_append, collapseFrom, collapseFrom]
    cases own : inClass first <;> cases inRun <;> simp [inductionHypothesis]

theorem collapseFrom_of_all {inRun : Bool} {characters : List Char}
    (all : ∀ character ∈ characters, inClass character = true) :
    collapseFrom inClass replacement inRun characters =
      if inRun || characters.isEmpty then [] else [replacement] := by
  induction characters generalizing inRun with
  | nil => simp [collapseFrom]
  | cons first rest inductionHypothesis =>
    obtain ⟨own, others⟩ := List.forall_mem_cons.mp all
    rw [collapseFrom, if_pos own, inductionHypothesis others]
    cases inRun <;> rfl

theorem collapseFrom_of_none {inRun : Bool} {characters : List Char}
    (none : ∀ character ∈ characters, inClass character = false) :
    collapseFrom inClass replacement inRun characters = characters := by
  induction characters generalizing inRun with
  | nil => rfl
  | cons first rest inductionHypothesis =>
    obtain ⟨own, others⟩ := List.forall_mem_cons.mp none
    rw [collapseFrom, if_neg (by simp [own]), inductionHypothesis others]

theorem collapseFrom_cons_of_neg {inRun : Bool} {first : Char} (outside : inClass first = false)
    (rest : List Char) :
    collapseFrom inClass replacement inRun (first :: rest) =
      first :: collapseFrom inClass replacement false rest := by
  rw [collapseFrom, if_neg (by simp [outside])]

theorem collapseFrom_append_of_none {front : List Char}
    (none : ∀ character ∈ front, inClass character = false) (back : List Char) :
    collapseFrom inClass replacement false (front ++ back) =
      front ++ collapseFrom inClass replacement false back := by
  induction front with
  | nil => rfl
  | cons first rest inductionHypothesis =>
    obtain ⟨own, others⟩ := List.forall_mem_cons.mp none
    rw [List.cons_append, collapseFrom_cons_of_neg own, inductionHypothesis others]
    rfl

theorem length_collapseFrom_le (inRun : Bool) (characters : List Char) :
    (collapseFrom inClass replacement inRun characters).length ≤ characters.length := by
  induction characters generalizing inRun with
  | nil => exact Nat.le_refl 0
  | cons first rest inductionHypothesis =>
    rw [collapseFrom]
    split
    · split
      · exact (inductionHypothesis true).trans (Nat.le_succ _)
      · exact Nat.succ_le_succ (inductionHypothesis true)
    · exact Nat.succ_le_succ (inductionHypothesis false)

/-- There is nothing to collapse where it has been done, if runs become one character of the
class. -/
theorem collapseFrom_collapseFrom (inside : inClass replacement = true) (inRun : Bool)
    (characters : List Char) :
    collapseFrom inClass replacement inRun (collapseFrom inClass replacement inRun characters) =
      collapseFrom inClass replacement inRun characters := by
  induction characters generalizing inRun with
  | nil => rfl
  | cons first rest inductionHypothesis =>
    rw [collapseFrom]
    split
    · split
      · rename_i goesOn
        rw [goesOn]
        exact inductionHypothesis true
      · rename_i begins
        rw [collapseFrom, if_pos inside, if_neg begins, inductionHypothesis true]
    · rename_i outside
      rw [collapseFrom_cons_of_neg (Bool.eq_false_iff.mpr outside), inductionHypothesis false]

theorem isEmpty_collapse (characters : List Char) :
    (collapse inClass replacement characters).isEmpty = characters.isEmpty := by
  cases characters with
  | nil => rfl
  | cons first rest =>
    unfold collapse
    rw [collapseFrom]
    split <;> rfl

/-- Collapsed, a text ends as it did or with a collapsed run. -/
theorem getLast?_collapseFrom {inRun : Bool} {characters : List Char} {last : Char}
    (ends : last ∈ (collapseFrom inClass replacement inRun characters).getLast?) :
    last = replacement ∨ last ∈ characters.getLast? := by
  induction characters generalizing inRun with
  | nil => cases ends
  | cons first rest inductionHypothesis =>
    have later {own : Bool} (member : last ∈ (collapseFrom inClass replacement own rest).getLast?) :
        last = replacement ∨ last ∈ (first :: rest).getLast? := by
      refine (inductionHypothesis member).imp_right fun inRest => ?_
      rw [Option.mem_def] at inRest ⊢
      rw [List.getLast?_cons, inRest]
      rfl
    rw [collapseFrom] at ends
    split at ends
    · split at ends
      · exact later ends
      · cases behind : collapseFrom inClass replacement true rest with
        | nil =>
          rw [behind] at ends
          exact Or.inl (Option.some.inj ends).symm
        | cons other more =>
          rw [behind, List.getLast?_cons_cons, ← behind] at ends
          exact later ends
    · cases behind : collapseFrom inClass replacement false rest with
      | nil =>
        have nothing : rest = [] := by
          rw [← List.isEmpty_iff, ← isEmpty_collapse rest, collapse, behind]
          rfl
        rw [behind] at ends
        rw [nothing]
        exact Or.inr ends
      | cons other more =>
        rw [behind, List.getLast?_cons_cons, ← behind] at ends
        exact later ends

/-- Runs that are collapsed lie apart from a run of another class at the end that is dropped. -/
theorem dropRightWhile_collapse {other : Char → Bool}
    (apart : ∀ character, other character = true → inClass character = false)
    (outside : other replacement = false) (characters : List Char) :
    dropRightWhile other (collapse inClass replacement characters) =
      collapse inClass replacement (dropRightWhile other characters) := by
  obtain ⟨back, split, dropped, ends⟩ := exists_split_dropRightWhile other characters
  generalize dropRightWhile other characters = front at split ends
  subst split
  have none : ∀ character ∈ back, inClass character = false := fun character member =>
    apart character (dropped character member)
  unfold collapse
  rw [collapseFrom_append, collapseFrom_of_none none, dropRightWhile_append_of_all _ dropped]
  refine dropRightWhile_of_getLast? fun last member => ?_
  rcases getLast?_collapseFrom member with rfl | own
  · exact outside
  · exact ends last own

theorem mem_of_mem_collapseFrom {inRun : Bool} {characters : List Char} {character : Char}
    (member : character ∈ collapseFrom inClass replacement inRun characters) :
    character = replacement ∨ character ∈ characters := by
  induction characters generalizing inRun with
  | nil => cases member
  | cons first rest inductionHypothesis =>
    rw [collapseFrom] at member
    split at member
    · split at member
      · exact (inductionHypothesis member).imp_right (List.mem_cons_of_mem _)
      · rcases List.mem_cons.mp member with own | later
        · exact Or.inl own
        · exact (inductionHypothesis later).imp_right (List.mem_cons_of_mem _)
    · rcases List.mem_cons.mp member with rfl | later
      · exact Or.inr List.mem_cons_self
      · exact (inductionHypothesis later).imp_right (List.mem_cons_of_mem _)

theorem mem_collapse_of_mem {characters : List Char} {character : Char}
    (member : character ∈ characters) (inside : inClass character = true) :
    replacement ∈ collapse inClass replacement characters := by
  unfold collapse
  induction characters with
  | nil => cases member
  | cons first rest inductionHypothesis =>
    by_cases own : inClass first = true
    · rw [collapseFrom, if_pos own, if_neg Bool.false_ne_true]
      exact List.mem_cons_self
    · have later : character ∈ rest := by
        rcases List.mem_cons.mp member with rfl | later
        · exact absurd inside own
        · exact later
      rw [collapseFrom, if_neg own]
      exact List.mem_cons_of_mem _ (inductionHypothesis later)

/-- Where the class holds all white space, and runs of it become a space, to trim what is left is to
trim all of the class before. -/
theorem trim_collapse (blanks : ∀ character, isBlank character = true → inClass character = true)
    (characters : List Char) :
    trim (collapse inClass ' ' characters) = collapse inClass ' ' (trimBy inClass characters) := by
  obtain ⟨front, back, split, before, behind, begins, ends⟩ :=
    exists_split_trimBy inClass characters
  generalize trimBy inClass characters = core at split begins ends
  subst split
  have outside {character : Char} (other : inClass character = false) :
      isBlank character = false := by
    refine Bool.eq_false_iff.mpr fun blank => ?_
    rw [blanks character blank] at other
    cases other
  have small (inRun : Bool) {part : List Char} (all : ∀ character ∈ part, inClass character = true) :
      ∀ character ∈ collapseFrom inClass ' ' inRun part, isBlank character = true := by
    intro character member
    rw [collapseFrom_of_all all] at member
    split at member
    · cases member
    · rw [List.mem_singleton.mp member]
      rfl
  unfold collapse
  rw [collapseFrom_append, collapseFrom_append]
  cases core with
  | nil =>
    rw [collapseFrom, List.nil_append]
    have noFirst : ∀ first ∈ ([] : List Char).head?, isBlank first = false := by rintro _ ⟨⟩
    exact trimBy_of_split (small _ before) (small _ behind) noFirst noFirst
  | cons first rest =>
    have own := begins first rfl
    rw [collapseFrom_cons_of_neg own, collapseFrom_cons_of_neg own]
    refine trimBy_of_split (small _ before) (small _ behind) ?_ ?_
    · rintro _ ⟨⟩
      exact outside own
    · intro last member
      rcases List.eq_nil_or_concat rest with rfl | ⟨init, final, rfl⟩
      · cases member
        exact outside own
      · rw [List.concat_eq_append, ← List.cons_append, List.getLast?_concat] at ends
        have finalOutside := ends final rfl
        rw [List.concat_eq_append, collapseFrom_append, collapseFrom_cons_of_neg finalOutside,
          collapseFrom, ← List.cons_append, List.getLast?_concat] at member
        cases member
        exact outside finalOutside

end Runs

end LlmTxt.Text

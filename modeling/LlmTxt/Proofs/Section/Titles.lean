/-
This file says what undoing decoration leaves of a title. The title may be in any letter case, with
any white space for its spaces; marks may stand around it, white space around all of these, and a
colon may follow inside the marks or outside. Decoration is taken off in one fixed order, marks
before the colon. So everything is undone but one thing: marks that close before the colon stay. To
take decoration off once more changes something just where the first time has left a mark at an end
or a colon at the end.
-/

import LlmTxt.Proofs.Text.Lower
import LlmTxt.Section.Kind
import Mathlib.Data.List.Basic

namespace LlmTxt

open Text SectionKind

/-! ### Titles in any letter case -/

/-- A text spells a title, which is in small letters: its letters are in any case, and it has white
space, as much as it likes, for each space. -/
inductive Spells : (text title : List Char) → Prop where
  | nil : Spells [] []
  | letter {character : Char} {rest title : List Char} (alpha : character.isAlpha = true)
      (others : Spells rest title) : Spells (character :: rest) (character.toLower :: title)
  | gap {space : List Char} {character : Char} {rest title : List Char}
      (isSpace : IsSpace space) (alpha : character.isAlpha = true) (others : Spells rest title) :
      Spells (space ++ character :: rest) (' ' :: character.toLower :: title)

/-- What letters are not: neither white space nor decoration nor punctuation. -/
structure IsTitleLetter (character : Char) : Prop where
  ascii : isAscii character = true
  visible : isBlank character = false
  undecorated : isDecoration character = false
  noColon : character ≠ ':'
  noSign : character ≠ '#'

theorem isTitleLetter_of_isAlpha {character : Char} (alpha : character.isAlpha = true) :
    IsTitleLetter character := by
  have different (other : Char) (noLetter : other.isAlpha = false) : character ≠ other := by
    rintro rfl
    rw [alpha] at noLetter
    cases noLetter
  refine ⟨isAscii_of_isAlpha alpha, isBlank_of_isAlpha alpha, ?_, different ':' (by decide),
    different '#' (by decide)⟩
  simp [isDecoration, different '*' (by decide), different '_' (by decide),
    different '\x60' (by decide)]

namespace Spells

variable {text title : List Char}

theorem isAlpha_of_getLast? (spells : Spells text title) :
    ∀ last ∈ text.getLast?, last.isAlpha = true := by
  induction spells with
  | nil => exact fun _ never => absurd never nofun
  | @letter character rest _ alpha _ inductionHypothesis =>
    intro last member
    cases rest with
    | nil => exact Option.some.inj member ▸ alpha
    | cons next more => exact inductionHypothesis last member
  | @gap space character rest _ _ alpha _ inductionHypothesis =>
    intro last member
    rw [getLast?_append_of_ne_nil _ (List.cons_ne_nil _ _)] at member
    cases rest with
    | nil => exact Option.some.inj member ▸ alpha
    | cons next more => exact inductionHypothesis last member

/-- A text that spells a title that does not begin with a space begins with a letter. -/
theorem exists_letter (spells : Spells text title) (begins : title.head?.all (· != ' ') = true)
    (nonempty : title ≠ []) : ∃ first rest, text = first :: rest ∧ first.isAlpha = true := by
  cases spells with
  | nil => exact absurd rfl nonempty
  | letter alpha => exact ⟨_, _, rfl, alpha⟩
  | gap => cases begins

/-- Behind the white space at the beginning there is a letter. -/
theorem exists_letter_dropWhile (spells : Spells text title) (nonempty : title ≠ [])
    (tail : List Char) : ∃ first rest, (text ++ tail).dropWhile isBlank = first :: rest ∧
      first.isAlpha = true := by
  cases spells with
  | nil => exact absurd rfl nonempty
  | letter alpha =>
    refine ⟨_, _, List.dropWhile_cons_of_neg ?_, alpha⟩
    simp [(isTitleLetter_of_isAlpha alpha).visible]
  | @gap space first rest title isSpace alpha =>
    refine ⟨first, rest ++ tail, ?_, alpha⟩
    rw [List.append_assoc, List.dropWhile_append_of_pos isSpace.blank]
    exact List.dropWhile_cons_of_neg (by simp [(isTitleLetter_of_isAlpha alpha).visible])

theorem collapseFrom_letter {inRun : Bool} {character : Char} (alpha : character.isAlpha = true)
    (rest : List Char) :
    collapseFrom isBlank ' ' inRun (character :: rest) = character :: collapse isBlank ' ' rest :=
  collapseFrom_cons_of_neg (isTitleLetter_of_isAlpha alpha).visible rest

theorem collapse_gap {space : List Char} {character : Char} (isSpace : IsSpace space)
    (alpha : character.isAlpha = true) (rest : List Char) :
    collapse isBlank ' ' (space ++ character :: rest) =
      ' ' :: character :: collapse isBlank ' ' rest := by
  have some : space.isEmpty = false := by simpa using isSpace.nonempty
  rw [collapse, collapseFrom_append, collapseFrom_of_all isSpace.blank, some,
    collapseFrom_letter alpha]
  rfl

/-- With one space for each gap and in small letters, the text is the title. -/
theorem lower_collapse (spells : Spells text title) : lower (collapse isBlank ' ' text) = title := by
  have whole : (∀ character ∈ collapse isBlank ' ' text, isAscii character = true) ∧
      (collapse isBlank ' ' text).map Char.toLower = title := by
    induction spells with
    | nil => exact ⟨by simp [collapse, collapseFrom], rfl⟩
    | letter alpha _ inductionHypothesis =>
      rw [collapse, collapseFrom_letter alpha]
      exact ⟨List.forall_mem_cons.mpr ⟨(isTitleLetter_of_isAlpha alpha).ascii, inductionHypothesis.1⟩,
        congrArg _ inductionHypothesis.2⟩
    | gap isSpace alpha _ inductionHypothesis =>
      rw [collapse_gap isSpace alpha]
      refine ⟨List.forall_mem_cons.mpr ⟨by decide, List.forall_mem_cons.mpr
        ⟨(isTitleLetter_of_isAlpha alpha).ascii, inductionHypothesis.1⟩⟩, ?_⟩
      rw [List.map_cons, List.map_cons, inductionHypothesis.2]
      rfl
  rw [lower_of_isAscii whole.1, whole.2]

end Spells

/-! ### Decoration -/

/-- A colon behind a title: none, or one inside the marks around the title, or one outside them,
with the white space before it. -/
inductive TitleColon where
  | none
  | inside (gap : List Char)
  | outside (gap : List Char)
deriving DecidableEq, Repr

namespace TitleColon

/-- The white space before a colon. -/
def gap : TitleColon → List Char
  | none => []
  | inside gap => gap
  | outside gap => gap

/-- What a colon writes inside the marks. -/
def textInside : TitleColon → List Char
  | inside gap => gap ++ [':']
  | _ => []

/-- What a colon writes outside the marks. -/
def textOutside : TitleColon → List Char
  | outside gap => gap ++ [':']
  | _ => []

/-- A colon is outside the marks. -/
def isOutside : TitleColon → Bool
  | outside _ => true
  | _ => false

end TitleColon

/-- What may stand around a title: marks on both sides, a colon, and white space around all of
these. -/
structure TitleDecoration where
  front : List Char
  opening : List Char
  left : List Char
  colon : TitleColon
  right : List Char
  closing : List Char
  back : List Char
  blanks : ∀ character ∈ front ++ left ++ colon.gap ++ right ++ back, isBlank character = true
  marks : ∀ character ∈ opening ++ closing, isDecoration character = true

namespace TitleDecoration

/-- A title with its decoration. -/
def around (decoration : TitleDecoration) (title : List Char) : List Char :=
  decoration.front ++ (decoration.opening ++ (decoration.left ++ (title ++
    (decoration.colon.textInside ++ (decoration.right ++ (decoration.closing ++
      (decoration.colon.textOutside ++ decoration.back)))))))

/-- The colon is outside marks that close. -/
def isMisread (decoration : TitleDecoration) : Bool :=
  decoration.colon.isOutside && !decoration.closing.isEmpty

/-- Before a decorated title there are white space and marks, and behind it perhaps a colon too. -/
theorem exists_around_append (decoration : TitleDecoration) (text : List Char) :
    ∃ lead tail, decoration.around text = lead ++ (text ++ tail) ∧
      (∀ character ∈ lead, isBlank character = true ∨ isDecoration character = true) ∧
      ∀ character ∈ tail, isBlank character = true ∨ isDecoration character = true ∨
        character = ':' := by
  obtain ⟨front, opening, left, colon, right, closing, back, blanks, marks⟩ := decoration
  refine ⟨front ++ (opening ++ left),
    colon.textInside ++ (right ++ (closing ++ (colon.textOutside ++ back))), ?_, ?_, ?_⟩
  · simp only [around, List.append_assoc]
  · simp only [List.forall_mem_append] at blanks marks ⊢
    exact ⟨fun character member => Or.inl (blanks.1.1.1.1 character member),
      fun character member => Or.inr (marks.1 character member),
      fun character member => Or.inl (blanks.1.1.1.2 character member)⟩
  · simp only [List.forall_mem_append] at blanks marks ⊢
    have colonOnly : ∀ character ∈ colon.textInside ++ colon.textOutside,
        isBlank character = true ∨ isDecoration character = true ∨ character = ':' := by
      have gapBlank := blanks.1.1.2
      cases colon with
      | none => exact fun _ never => absurd never List.not_mem_nil
      | inside gap =>
        intro character member
        simp only [TitleColon.textInside, TitleColon.textOutside, List.append_nil,
          List.mem_append, List.mem_singleton] at member
        exact member.imp (gapBlank character) Or.inr
      | outside gap =>
        intro character member
        simp only [TitleColon.textInside, TitleColon.textOutside, List.nil_append,
          List.mem_append, List.mem_singleton] at member
        exact member.imp (gapBlank character) Or.inr
    exact ⟨fun character member => colonOnly character (List.mem_append_left _ member),
      fun character member => Or.inl (blanks.1.2 character member),
      fun character member => Or.inr (Or.inl (marks.2 character member)),
      fun character member => colonOnly character (List.mem_append_right _ member),
      fun character member => Or.inl (blanks.2 character member)⟩

end TitleDecoration

theorem isBlank_of_isDecoration {character : Char} (mark : isDecoration character = true) :
    isBlank character = false := by
  simp only [isDecoration, Bool.or_eq_true, beq_iff_eq] at mark
  rcases mark with (rfl | rfl) | rfl <;> decide

theorem isSmall_of_isDecoration {character : Char} (mark : isDecoration character = true) :
    IsSmall character := by
  simp only [isDecoration, Bool.or_eq_true, beq_iff_eq] at mark
  rcases mark with (rfl | rfl) | rfl <;> exact isSmall_of_isAscii (by decide) (by decide)

/-- White space around marks, the marks and white space inside them are taken off at the
beginning. -/
theorem dropWhile_dropWhile_dropWhile {front opening left : List Char}
    (frontBlank : ∀ character ∈ front, isBlank character = true)
    (marks : ∀ character ∈ opening, isDecoration character = true)
    (leftBlank : ∀ character ∈ left, isBlank character = true) :
    (((front ++ (opening ++ left)).dropWhile isBlank).dropWhile isDecoration).dropWhile isBlank =
      [] := by
  rw [List.dropWhile_append_of_pos frontBlank]
  cases opening with
  | nil => rw [List.nil_append, List.dropWhile_eq_nil_iff.mpr leftBlank]; rfl
  | cons mark more =>
    have visible : ¬isBlank mark = true := by
      rw [isBlank_of_isDecoration (marks mark List.mem_cons_self)]
      exact Bool.false_ne_true
    rw [List.cons_append, List.dropWhile_cons_of_neg visible, ← List.cons_append,
      List.dropWhile_append_of_pos marks]
    exact List.dropWhile_eq_nil_iff.mpr fun character member =>
      leftBlank character ((List.dropWhile_sublist _).subset member)

/-- The same is taken off at the end. -/
theorem dropRightWhile_dropRightWhile_dropRightWhile {right closing back : List Char}
    (rightBlank : ∀ character ∈ right, isBlank character = true)
    (marks : ∀ character ∈ closing, isDecoration character = true)
    (backBlank : ∀ character ∈ back, isBlank character = true) :
    dropRightWhile isBlank (dropRightWhile isDecoration (dropRightWhile isBlank
      (right ++ (closing ++ back)))) = [] := by
  unfold dropRightWhile
  simp only [List.reverse_reverse, List.reverse_append, List.append_assoc]
  rw [dropWhile_dropWhile_dropWhile, List.reverse_nil]
  · exact fun character member => backBlank character (List.mem_reverse.mp member)
  · exact fun character member => marks character (List.mem_reverse.mp member)
  · exact fun character member => rightBlank character (List.mem_reverse.mp member)

/-- Marks and white space stop at a text: it begins and ends with neither. -/
structure IsTitleCore (text : List Char) : Prop where
  nonempty : text ≠ []
  begins : ∀ first ∈ text.head?, isBlank first = false ∧ isDecoration first = false
  ends : ∀ last ∈ text.getLast?, isBlank last = false ∧ isDecoration last = false

namespace IsTitleCore

variable {core front opening left right closing back : List Char}

theorem trimBy_eq (isTitleCore : IsTitleCore core) {inClass : Char → Bool}
    (others : ∀ character, isBlank character = false ∧ isDecoration character = false →
      inClass character = false) (front back : List Char) :
    trimBy inClass (front ++ (core ++ back)) =
      front.dropWhile inClass ++ (core ++ dropRightWhile inClass back) :=
  trimBy_append_append front back isTitleCore.nonempty
    (fun first member => others first (isTitleCore.begins first member))
    fun last member => others last (isTitleCore.ends last member)

/-- White space, marks and white space are taken off up to the text. -/
theorem trim_trimBy_trim (isTitleCore : IsTitleCore core)
    (outer : ∀ character ∈ front ++ left ++ right ++ back, isBlank character = true)
    (marks : ∀ character ∈ opening ++ closing, isDecoration character = true) :
    trim (trimBy isDecoration (trim
        (front ++ (opening ++ left) ++ (core ++ (right ++ (closing ++ back)))))) = core := by
  simp only [List.forall_mem_append] at outer marks
  obtain ⟨⟨⟨frontBlank, leftBlank⟩, rightBlank⟩, backBlank⟩ := outer
  unfold trim
  rw [isTitleCore.trimBy_eq fun _ => And.left, isTitleCore.trimBy_eq fun _ => And.right,
    isTitleCore.trimBy_eq fun _ => And.left,
    dropWhile_dropWhile_dropWhile frontBlank marks.1 leftBlank,
    dropRightWhile_dropRightWhile_dropRightWhile rightBlank marks.2 backBlank]
  exact List.append_nil core

end IsTitleCore

/-- A text that spells a title, with something behind it that ends with a colon or nothing. -/
theorem Spells.isTitleCore {text title kept : List Char} (spells : Spells text title)
    (begins : title.head?.all (· != ' ') = true) (nonempty : title ≠ [])
    (ends : ∀ last ∈ kept.getLast?, last = ':') : IsTitleCore (text ++ kept) := by
  obtain ⟨first, rest, rfl, alpha⟩ := spells.exists_letter begins nonempty
  refine ⟨List.cons_ne_nil _ _, fun own member => ?_, fun last member => ?_⟩
  · cases member
    exact ⟨(isTitleLetter_of_isAlpha alpha).visible, (isTitleLetter_of_isAlpha alpha).undecorated⟩
  · by_cases nothing : kept = []
    · rw [nothing, List.append_nil] at member
      have letter := isTitleLetter_of_isAlpha (spells.isAlpha_of_getLast? last member)
      exact ⟨letter.visible, letter.undecorated⟩
    · rw [getLast?_append_of_ne_nil _ nothing] at member
      rw [ends last member]
      decide

/-! ### Titles without decoration -/

/-- What is left of a title when marks and white space are taken off, and after them colons at the
end, gets one space for each gap and small letters. -/
theorem normalizeTitle_eq (title : List Char) :
    normalizeTitle title = lower (collapse isBlank ' ' (trim (dropRightWhile (· == ':')
      (trim (trimBy isDecoration (trim title)))))) := by
  have visible : ∀ character, (character == ':') = true → isBlank character = false := by
    intro character colon
    rw [beq_iff_eq.mp colon]
    decide
  unfold normalizeTitle
  dsimp only
  rw [dropRightWhile_collapse visible (by decide), trim_collapse fun _ blank => blank]
  rfl

theorem normalizeTitle_trim (title : List Char) :
    normalizeTitle (trim title) = normalizeTitle title := by
  have again : trim (trim title) = trim title := trimBy_trimBy isBlank title
  rw [normalizeTitle_eq, again, ← normalizeTitle_eq]

/-- White space and a colon behind a text are taken off. -/
theorem trim_dropRightWhile_colon {core gap colons : List Char}
    (begins : ∀ first ∈ core.head?, isBlank first = false)
    (ends : ∀ last ∈ core.getLast?, isBlank last = false ∧ last ≠ ':')
    (blank : ∀ character ∈ gap, isBlank character = true)
    (all : ∀ character ∈ colons, character = ':') :
    trim (dropRightWhile (· == ':') (core ++ (gap ++ colons))) = core := by
  have noColon : ∀ last ∈ (core ++ gap).getLast?, (last == ':') = false := by
    intro last member
    refine beq_eq_false_iff_ne.mpr ?_
    by_cases nothing : gap = []
    · rw [nothing, List.append_nil] at member
      exact (ends last member).2
    · rw [getLast?_append_of_ne_nil _ nothing] at member
      rintro rfl
      exact absurd (blank ':' (List.mem_of_getLast? member)) (by decide)
  rw [← List.append_assoc, dropRightWhile_append_of_all _
    fun character member => beq_iff_eq.mpr (all character member),
    dropRightWhile_of_getLast? noColon]
  exact trimBy_of_split (fun _ never => absurd never List.not_mem_nil) blank begins
    fun last member => (ends last member).1

/-- The text between marks and white space, without a colon at its end. -/
theorem normalizeTitle_wrapped {core gap colons front opening left right closing back : List Char}
    (isTitleCore : IsTitleCore (core ++ (gap ++ colons)))
    (ends : ∀ last ∈ core.getLast?, isBlank last = false ∧ last ≠ ':')
    (blank : ∀ character ∈ gap, isBlank character = true)
    (all : ∀ character ∈ colons, character = ':')
    (outer : ∀ character ∈ front ++ left ++ right ++ back, isBlank character = true)
    (marks : ∀ character ∈ opening ++ closing, isDecoration character = true) :
    normalizeTitle (front ++ (opening ++ left) ++
      ((core ++ (gap ++ colons)) ++ (right ++ (closing ++ back)))) =
        lower (collapse isBlank ' ' core) := by
  have begins : ∀ first ∈ core.head?, isBlank first = false := by
    intro first member
    refine (isTitleCore.begins first ?_).1
    rw [List.head?_append, Option.mem_def.mp member]
    rfl
  rw [normalizeTitle_eq, isTitleCore.trim_trimBy_trim outer marks,
    trim_dropRightWhile_colon begins ends blank all]

namespace TitleDecoration

/-- The white space of a decoration is white space wherever it stands. -/
theorem isBlank_of_mem (decoration : TitleDecoration) :
    (∀ character ∈ decoration.front, isBlank character = true) ∧
      (∀ character ∈ decoration.left, isBlank character = true) ∧
      (∀ character ∈ decoration.colon.gap, isBlank character = true) ∧
      (∀ character ∈ decoration.right, isBlank character = true) ∧
      ∀ character ∈ decoration.back, isBlank character = true := by
  have blanks := decoration.blanks
  simp only [List.forall_mem_append] at blanks
  obtain ⟨⟨⟨⟨front, left⟩, gap⟩, right⟩, back⟩ := blanks
  exact ⟨front, left, gap, right, back⟩

/-- Unless it is misread, a decoration is marks and white space around a title with a colon. -/
theorem exists_around_eq (decoration : TitleDecoration) (read : decoration.isMisread = false)
    (text : List Char) :
    ∃ gap colons right closing, decoration.around text =
        decoration.front ++ (decoration.opening ++ decoration.left) ++
          ((text ++ (gap ++ colons)) ++ (right ++ (closing ++ decoration.back))) ∧
      (∀ character ∈ gap, isBlank character = true) ∧ (∀ character ∈ colons, character = ':') ∧
      (∀ last ∈ (gap ++ colons).getLast?, last = ':') ∧
      (∀ character ∈ right, isBlank character = true) ∧
      ∀ character ∈ closing, isDecoration character = true := by
  obtain ⟨front, opening, left, colon, right, closing, back, blanks, marks⟩ := decoration
  simp only [List.forall_mem_append] at blanks marks
  obtain ⟨⟨⟨⟨-, -⟩, gapBlank⟩, rightBlank⟩, -⟩ := blanks
  have last (gap : List Char) : ∀ last ∈ (gap ++ [':']).getLast?, last = ':' := by simp
  cases colon with
  | none =>
    refine ⟨[], [], right, closing, ?_, by simp, by simp, by simp, rightBlank, marks.2⟩
    simp [around, TitleColon.textInside, TitleColon.textOutside]
  | inside gap =>
    refine ⟨gap, [':'], right, closing, ?_, gapBlank, by simp, last gap, rightBlank, marks.2⟩
    simp [around, TitleColon.textInside, TitleColon.textOutside]
  | outside gap =>
    have unwrapped : closing = [] := by simpa [isMisread, TitleColon.isOutside] using read
    subst unwrapped
    refine ⟨right ++ gap, [':'], [], [], ?_, ?_, by simp, last _, by simp, by simp⟩
    · simp [around, TitleColon.textInside, TitleColon.textOutside]
    · exact List.forall_mem_append.mpr ⟨rightBlank, gapBlank⟩

/-- A decoration that is misread leaves a mark between the title and its colon. -/
theorem exists_around_eq_of_isMisread (decoration : TitleDecoration)
    (misread : decoration.isMisread = true) (text : List Char) :
    ∃ gap marked mark, decoration.around text =
        decoration.front ++ (decoration.opening ++ decoration.left) ++
          ((text ++ marked ++ [mark] ++ (gap ++ [':'])) ++ ([] ++ ([] ++ decoration.back))) ∧
      (∀ character ∈ gap, isBlank character = true) ∧ isDecoration mark = true := by
  obtain ⟨front, opening, left, colon, right, closing, back, blanks, marks⟩ := decoration
  simp only [List.forall_mem_append] at blanks
  obtain ⟨⟨⟨⟨-, -⟩, gapBlank⟩, -⟩, -⟩ := blanks
  cases colon with
  | none => cases misread
  | inside gap => cases misread
  | outside gap =>
    have closes : closing ≠ [] := by simpa [isMisread, TitleColon.isOutside] using misread
    obtain ⟨more, mark, rfl⟩ := (List.eq_nil_or_concat' closing).resolve_left closes
    refine ⟨gap, right ++ more, mark, ?_, gapBlank, marks mark (by simp)⟩
    simp [around, TitleColon.textInside, TitleColon.textOutside]

variable {text title : List Char} (spells : Spells text title)
  (begins : title.head?.all (· != ' ') = true) (nonempty : title ≠ [])

include spells begins nonempty

/-- A title is undone of any decoration that is not misread. -/
theorem normalizeTitle_around (decoration : TitleDecoration)
    (read : decoration.isMisread = false) :
    normalizeTitle (decoration.around text) = title := by
  obtain ⟨frontBlank, leftBlank, -, -, backBlank⟩ := decoration.isBlank_of_mem
  have opening := (List.forall_mem_append.mp decoration.marks).1
  obtain ⟨gap, colons, right, closing, whole, gapBlank, all, last, rightBlank, closes⟩ :=
    decoration.exists_around_eq read text
  have ends : ∀ last ∈ text.getLast?, isBlank last = false ∧ last ≠ ':' := fun last member =>
    have letter := isTitleLetter_of_isAlpha (spells.isAlpha_of_getLast? last member)
    ⟨letter.visible, letter.noColon⟩
  rw [whole, normalizeTitle_wrapped (spells.isTitleCore begins nonempty last) ends gapBlank all,
    spells.lower_collapse]
  · simp only [List.forall_mem_append]
    exact ⟨⟨⟨frontBlank, leftBlank⟩, rightBlank⟩, backBlank⟩
  · exact List.forall_mem_append.mpr ⟨opening, closes⟩

/-- A title of a decoration that is misread keeps a mark at its end. -/
theorem exists_mark_of_isMisread (decoration : TitleDecoration)
    (misread : decoration.isMisread = true) :
    ∃ mark ∈ (normalizeTitle (decoration.around text)).getLast?, isDecoration mark = true := by
  obtain ⟨frontBlank, leftBlank, -, -, backBlank⟩ := decoration.isBlank_of_mem
  have opening := (List.forall_mem_append.mp decoration.marks).1
  obtain ⟨gap, marked, mark, whole, gapBlank, isMark⟩ :=
    decoration.exists_around_eq_of_isMisread misread text
  have last : ∀ last ∈ (marked ++ [mark] ++ gap ++ [':']).getLast?, last = ':' := by
    rw [List.getLast?_concat]
    exact fun last member => (Option.some.inj member).symm
  have isTitleCore : IsTitleCore (text ++ marked ++ [mark] ++ (gap ++ [':'])) := by
    have core := spells.isTitleCore begins nonempty last
    simp only [List.append_assoc] at core ⊢
    exact core
  have ends : ∀ last ∈ (text ++ marked ++ [mark]).getLast?, isBlank last = false ∧ last ≠ ':' := by
    intro last member
    rw [List.getLast?_concat] at member
    cases member
    refine ⟨isBlank_of_isDecoration isMark, ?_⟩
    rintro rfl
    exact absurd isMark (by decide)
  refine ⟨mark, ?_, isMark⟩
  rw [whole, normalizeTitle_wrapped isTitleCore ends gapBlank (by simp)]
  · have single : collapse isBlank ' ' (text ++ marked ++ [mark]) =
        collapse isBlank ' ' (text ++ marked) ++ [mark] := by
      rw [collapse, collapseFrom_append,
        collapseFrom_cons_of_neg (isBlank_of_isDecoration isMark)]
      rfl
    obtain ⟨front, kept⟩ := exists_lowerFrom_concat [] (collapse isBlank ' ' (text ++ marked))
      (isSmall_of_isDecoration isMark)
    rw [single, lower, kept, List.getLast?_concat]
    rfl
  · simp only [List.forall_mem_append]
    exact ⟨⟨⟨frontBlank, leftBlank⟩, by simp⟩, backBlank⟩
  · simpa using opening

end TitleDecoration

/-! ### Undoing decoration once more -/

/-- A text that undoing decoration has left: white space and small letters are as they should be. -/
structure IsNormalTitle (text : List Char) : Prop where
  trimmed : trim text = text
  collapsed : collapse isBlank ' ' text = text
  small : ∀ character ∈ text, IsSmall character

/-- No mark is at an end of a text, and no colon at its end. -/
structure IsBareTitle (text : List Char) : Prop where
  begins : ∀ first ∈ text.head?, isDecoration first = false
  ends : ∀ last ∈ text.getLast?, isDecoration last = false ∧ last ≠ ':'

theorem isNormalTitle_normalizeTitle (title : List Char) : IsNormalTitle (normalizeTitle title) := by
  rw [normalizeTitle_eq]
  generalize dropRightWhile _ _ = text
  have trimmed : trim (collapse isBlank ' ' (trim text)) = collapse isBlank ' ' (trim text) := by
    rw [trim_collapse fun _ blank => blank]
    exact congrArg _ (trimBy_trimBy isBlank text)
  obtain ⟨begins, ends⟩ := ends_of_trimBy_eq trimmed
  exact ⟨trimBy_of_ends (isBlank_head?_lower begins) (isBlank_getLast?_lowerFrom ends),
    collapseFrom_lowerFrom (collapseFrom_collapseFrom (by decide) false _),
    fun character => isSmall_of_mem_lowerFrom⟩

namespace IsNormalTitle

variable {text : List Char} (isNormalTitle : IsNormalTitle text)

include isNormalTitle

theorem normalizeTitle_of_isBareTitle (isBareTitle : IsBareTitle text) :
    normalizeTitle text = text := by
  have undecorated : trimBy isDecoration text = text :=
    trimBy_of_ends isBareTitle.begins fun last member => (isBareTitle.ends last member).1
  have noColon : dropRightWhile (· == ':') text = text :=
    dropRightWhile_of_getLast? fun last member =>
      beq_eq_false_iff_ne.mpr (isBareTitle.ends last member).2
  rw [normalizeTitle_eq, isNormalTitle.trimmed, undecorated, isNormalTitle.trimmed, noColon,
    isNormalTitle.trimmed, isNormalTitle.collapsed]
  exact lowerFrom_of_isSmall isNormalTitle.small

/-- What is left is of small characters, so nothing shorter becomes the text again. -/
theorem eq_of_lower_collapse {left : List Char} (sublist : left.Sublist text)
    (same : lower (collapse isBlank ' ' left) = text) : left = text := by
  have small : ∀ character ∈ collapse isBlank ' ' left, IsSmall character := by
    intro character member
    rcases mem_of_mem_collapseFrom member with rfl | own
    · exact isSmall_of_isAscii (by decide) (by decide)
    · exact isNormalTitle.small character (sublist.subset own)
  have long : text.length ≤ left.length := by
    rw [← same, lower, lowerFrom_of_isSmall small]
    exact length_collapseFrom_le false left
  exact sublist.eq_of_length_le long

/-- Where nothing changes in the end, each step leaves the whole text. -/
theorem isBareTitle_of_steps {bare inner ended left : List Char}
    (bare_eq : trimBy isDecoration text = bare) (inner_eq : trim bare = inner)
    (ended_eq : dropRightWhile (· == ':') inner = ended) (left_eq : trim ended = left)
    (same : lower (collapse isBlank ' ' left) = text) : IsBareTitle text := by
  have bareSublist : bare.Sublist text := bare_eq ▸ trimBy_sublist _ _
  have innerSublist : inner.Sublist bare := inner_eq ▸ trimBy_sublist _ _
  have endedSublist : ended.Sublist inner := ended_eq ▸ dropRightWhile_sublist _ _
  have leftSublist : left.Sublist ended := left_eq ▸ trimBy_sublist _ _
  have whole := isNormalTitle.eq_of_lower_collapse
    (leftSublist.trans (endedSublist.trans (innerSublist.trans bareSublist))) same
  subst whole
  have bareSame := bareSublist.antisymm (leftSublist.trans (endedSublist.trans innerSublist))
  subst bareSame
  rw [isNormalTitle.trimmed] at inner_eq
  subst inner_eq
  have endedSame := endedSublist.antisymm leftSublist
  subst endedSame
  obtain ⟨begins, ends⟩ := ends_of_trimBy_eq bare_eq
  obtain ⟨-, -, -, noColon⟩ := exists_split_dropRightWhile (· == ':') ended
  rw [ended_eq] at noColon
  exact ⟨begins, fun last member =>
    ⟨ends last member, beq_eq_false_iff_ne.mp (noColon last member)⟩⟩

theorem isBareTitle_of_normalizeTitle_eq (same : normalizeTitle text = text) : IsBareTitle text := by
  rw [normalizeTitle_eq, isNormalTitle.trimmed] at same
  exact isNormalTitle.isBareTitle_of_steps rfl rfl rfl rfl same

end IsNormalTitle

/-- To undo decoration once more changes nothing just where no mark and no colon was left. -/
theorem normalizeTitle_normalizeTitle_iff (title : List Char) :
    normalizeTitle (normalizeTitle title) = normalizeTitle title ↔
      IsBareTitle (normalizeTitle title) :=
  have isNormalTitle := isNormalTitle_normalizeTitle title
  ⟨isNormalTitle.isBareTitle_of_normalizeTitle_eq, isNormalTitle.normalizeTitle_of_isBareTitle⟩

end LlmTxt

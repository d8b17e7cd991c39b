/-
This file says which lines are headings and which are neither heading nor fence. Number signs, a
space and a title make a heading with this title, unless the title has white space at its ends or
number signs at its end, which would be taken from it. More generally, reading a heading undoes
writing it, in all the ways in which it can be laid out: with some spaces before the number signs,
any gap behind them, and perhaps more number signs that close it. The title may then even end with
number signs, because those that close a heading stand behind a gap. Only a title that itself ends
with a gap and number signs cannot be told from a closed one.
-/

import LlmTxt.Heading
import LlmTxt.Proofs.Text.Trim
import Mathlib.Data.List.Basic

namespace LlmTxt

open Text

/-! ### Lines by their first character -/

/-- Of the spaces before a line three at most are dropped. -/
theorem dropIndent_spaces (indent : Nat) {first : Char} (noSpace : first ≠ ' ')
    (rest : List Char) :
    dropIndent (List.replicate indent ' ' ++ first :: rest) =
      List.replicate (indent - 3) ' ' ++ first :: rest := by
  have spaces : (List.replicate indent ' ' ++ first :: rest).takeWhile (· == ' ') =
      List.replicate indent ' ' :=
    takeWhile_append_of_all (by simp) (by simpa using noSpace)
  have within : min 3 indent ≤ (List.replicate indent ' ').length := by
    rw [List.length_replicate]
    exact Nat.min_le_right 3 indent
  rw [dropIndent, spaces, List.length_replicate, List.drop_append_of_le_length within,
    List.drop_replicate]
  congr 2
  omega

theorem dropIndent_cons {first : Char} (noSpace : first ≠ ' ') (rest : List Char) :
    dropIndent (first :: rest) = first :: rest :=
  dropIndent_spaces 0 noSpace rest

section Indented

variable {line : List Char} {first : Char} {rest : List Char}
  (indented : dropIndent line = first :: rest)

include indented

theorem Fence.ofLine?_eq_none (noMarker : Fence.isMarker first = false) :
    Fence.ofLine? line = none := by
  rw [Fence.ofLine?, indented]
  dsimp only
  rw [noMarker]
  rfl

theorem Heading.ofLine?_eq_none (noSign : first ≠ '#') : Heading.ofLine? line = none := by
  have none : (first :: rest).takeWhile (· == '#') = [] :=
    List.takeWhile_cons_of_neg (by simpa using noSign)
  rw [Heading.ofLine?, indented, none]
  rfl

end Indented

/-- A heading is no fence. -/
theorem Heading.noFence {line : List Char} {found : Nat × List Char}
    (heading : Heading.ofLine? line = some found) : Fence.ofLine? line = none := by
  cases indented : dropIndent line with
  | nil => rw [Fence.ofLine?, indented]
  | cons first rest =>
    by_cases sign : first = '#'
    · exact Fence.ofLine?_eq_none indented (sign ▸ rfl)
    · rw [Heading.ofLine?_eq_none indented sign] at heading
      cases heading

namespace Heading

/-! ### Headings with a title -/

variable {title : List Char}

/-- A text that a heading can have as its title just as it is. -/
structure IsTitle (title : List Char) : Prop where
  begins : ∀ first ∈ title.head?, isBlank first = false
  ends : ∀ last ∈ title.getLast?, isBlank last = false ∧ last ≠ '#'
  nonempty : title ≠ []
  oneLine : '\n' ∉ title

/-- Whether a text can be a title is found by looking at it. -/
theorem isTitle_of_looks
    (looks : (title.head?.all (fun first => !isBlank first) &&
      title.getLast?.all (fun last => !isBlank last && last != '#') &&
      !title.isEmpty && !title.contains '\n') = true) : IsTitle title := by
  simp only [Bool.and_eq_true, Bool.not_eq_true', Option.all_eq_true, bne_iff_ne] at looks
  obtain ⟨⟨⟨begins, ends⟩, nonempty⟩, oneLine⟩ := looks
  refine ⟨begins, ends, ?_, ?_⟩
  · simpa using nonempty
  · simpa using oneLine

/-- A text that a heading can have, if white space around it does not count. -/
structure IsText (text : List Char) : Prop where
  ends : ∀ last ∈ (trim text).getLast?, last ≠ '#'
  nonempty : trim text ≠ []
  oneLine : '\n' ∉ text

/-- Gaps are white space, so it comes to nothing to trim them before. -/
theorem trim_trimBy_isGap (text : List Char) : trim (trimBy isGap text) = trim text := by
  obtain ⟨front, back, split, before, behind, -, -⟩ := exists_split_trimBy isGap text
  have blank {part : List Char} (gaps : ∀ character ∈ part, isGap character = true) :
      ∀ character ∈ part, isBlank character = true := by
    intro character member
    by_contra noBlank
    have noGap := isGap_of_isBlank (Bool.eq_false_iff.mpr noBlank)
    rw [gaps character member] at noGap
    cases noGap
  generalize trimBy isGap text = core at split
  rw [split]
  exact (trimBy_append_of_all core (blank before) (blank behind)).symm

theorem IsText.withoutClosing_eq {text : List Char} (isText : IsText text) :
    withoutClosing (text.dropWhile isGap) = trimBy isGap text := by
  have opened : dropRightWhile (· == '#') (trimBy isGap text) = trimBy isGap text := by
    obtain ⟨front, back, split, -, behind, -, -⟩ := exists_split_trimBy isBlank (trimBy isGap text)
    refine dropRightWhile_of_getLast? fun last member => beq_eq_false_iff_ne.mpr ?_
    change trimBy isGap text = front ++ (trim (trimBy isGap text) ++ back) at split
    rw [trim_trimBy_isGap] at split
    rw [split, getLast?_append_of_ne_nil _ (List.append_ne_nil_of_left_ne_nil isText.nonempty _)]
      at member
    by_cases nothing : back = []
    · rw [nothing, List.append_nil] at member
      exact isText.ends last member
    · rw [getLast?_append_of_ne_nil _ nothing] at member
      rintro rfl
      exact absurd (behind '#' (List.mem_of_getLast? member)) (by decide)
  have bare : dropRightWhile isGap (text.dropWhile isGap) = trimBy isGap text := rfl
  rw [withoutClosing, bare, opened]
  simp

theorem IsTitle.trim_eq (plain : IsTitle title) : trim title = title :=
  trimBy_of_ends plain.begins fun last member => (plain.ends last member).1

theorem IsTitle.isText (plain : IsTitle title) : IsText title where
  ends last member := (plain.ends last (plain.trim_eq ▸ member)).2
  nonempty := plain.trim_eq.symm ▸ plain.nonempty
  oneLine := plain.oneLine

theorem dropIndent_signs {level : Nat} (positive : 1 ≤ level) (rest : List Char) :
    dropIndent (List.replicate level '#' ++ rest) = List.replicate level '#' ++ rest := by
  obtain ⟨less, rfl⟩ := Nat.exists_eq_add_of_le' positive
  exact dropIndent_cons (by decide) _

theorem noFence_signs {level : Nat} (positive : 1 ≤ level) (rest : List Char) :
    Fence.ofLine? (List.replicate level '#' ++ rest) = none := by
  have whole := dropIndent_signs positive rest
  obtain ⟨less, rfl⟩ := Nat.exists_eq_add_of_le' positive
  exact Fence.ofLine?_eq_none whole rfl

/-- A gap: some spaces or tabs. -/
structure IsGapRun (gap : List Char) : Prop where
  nonempty : gap ≠ []
  all : ∀ character ∈ gap, isGap character = true

theorem isSign_of_isGap {character : Char} (gap : isGap character = true) :
    (character == '#') = false := by
  refine beq_eq_false_iff_ne.mpr ?_
  rintro rfl
  exact absurd gap (by decide)

section Signs

variable {level : Nat} {gap content : List Char}

/-- What is read behind the indentation: the signs, the gap and the text. -/
theorem ofLine?_of_dropIndent {line : List Char} (isGapRun : IsGapRun gap)
    (begins : ∀ first ∈ content.head?, isGap first = false) (nonempty : content ≠ [])
    (oneLine : '\n' ∉ content)
    (indented : dropIndent line = List.replicate level '#' ++ (gap ++ content)) :
    Heading.ofLine? line =
      if level = 0 ∨ 6 < level then none else some (level, trim (withoutClosing content)) := by
  have noSign : ∀ first ∈ (gap ++ content).head?, (first == '#') = false := by
    obtain ⟨first, more, rfl⟩ := List.exists_cons_of_ne_nil isGapRun.nonempty
    rintro _ ⟨⟩
    exact isSign_of_isGap (isGapRun.all first List.mem_cons_self)
  have signs : (List.replicate level '#' ++ (gap ++ content)).takeWhile (· == '#') =
      List.replicate level '#' := takeWhile_append_of_all (by simp) noSign
  have gaps : (gap ++ content).takeWhile isGap = gap := takeWhile_append_of_all isGapRun.all begins
  have noFeed : content.getLast? ≠ some '\n' := fun last => oneLine (List.mem_of_getLast? last)
  have oneLine : content.contains '\n' = false :=
    Bool.eq_false_iff.mpr fun feed => oneLine (List.contains_iff_mem.mp feed)
  have filled : content.isEmpty = false :=
    Bool.eq_false_iff.mpr fun nothing => nonempty (List.isEmpty_iff.mp nothing)
  have gapped : gap.length ≠ 0 := fun none => isGapRun.nonempty (List.length_eq_zero_iff.mp none)
  rw [ofLine?, indented, signs]
  simp only [List.length_replicate, List.drop_left', gaps, if_neg noFeed, oneLine, filled, gapped,
    decide_false, Bool.or_false, Bool.or_eq_true, decide_eq_true_eq, Bool.false_eq_true, if_false]

end Signs

/-- Number signs, a space and a text are a heading with the text, without white space around it. -/
theorem ofLine?_text {level : Nat} (positive : 1 ≤ level) (bound : level ≤ 6) {text : List Char}
    (isText : IsText text) :
    Heading.ofLine? (List.replicate level '#' ++ ' ' :: text) = some (level, trim text) := by
  have split : (' ' :: text.takeWhile isGap) ++ text.dropWhile isGap = ' ' :: text :=
    congrArg (' ' :: ·) List.takeWhile_append_dropWhile
  have isGapRun : IsGapRun (' ' :: text.takeWhile isGap) :=
    ⟨List.cons_ne_nil _ _, List.forall_mem_cons.mpr ⟨rfl, fun _ => List.mem_takeWhile_imp⟩⟩
  have begins : ∀ first ∈ (text.dropWhile isGap).head?, isGap first = false := by
    intro first member
    have outside := List.head?_dropWhile_not isGap text
    rwa [Option.mem_def.mp member] at outside
  have nonempty : text.dropWhile isGap ≠ [] := by
    intro nothing
    refine isText.nonempty ?_
    rw [← trim_trimBy_isGap, trimBy, nothing]
    rfl
  have oneLine : '\n' ∉ text.dropWhile isGap :=
    fun feed => isText.oneLine ((List.dropWhile_sublist _).subset feed)
  have indented := dropIndent_signs positive (' ' :: text)
  rw [← split] at indented
  rw [← split, ofLine?_of_dropIndent isGapRun begins nonempty oneLine indented, if_neg (by omega),
    isText.withoutClosing_eq, trim_trimBy_isGap]

/-- Number signs, a space and a title are a heading. -/
theorem ofLine?_title {level : Nat} (positive : 1 ≤ level) (bound : level ≤ 6)
    (plain : IsTitle title) :
    Heading.ofLine? (List.replicate level '#' ++ ' ' :: title) = some (level, title) := by
  rw [ofLine?_text positive bound plain.isText, plain.trim_eq]

/-! ### How a heading is laid out -/

/-- Number signs that close a heading, the gap before them and what spaces and tabs follow. -/
structure Closing where
  gap : List Char
  signs : Nat
  behind : List Char
  isGapRun : IsGapRun gap
  positive : 1 ≤ signs
  isBehind : ∀ character ∈ behind, isGap character = true

/-- How a heading is laid out on its line. -/
structure Layout where
  indent : Nat
  level : Nat
  gap : List Char
  closing : Option Closing
  positive : 1 ≤ level
  isGapRun : IsGapRun gap

def Closing.text (closing : Closing) : List Char :=
  closing.gap ++ (List.replicate closing.signs '#' ++ closing.behind)

/-- What closes a heading, or nothing. -/
def Layout.closed (layout : Layout) : List Char :=
  layout.closing.elim [] Closing.text

/-- The line of a heading with a title. -/
def Layout.line (layout : Layout) (title : List Char) : List Char :=
  List.replicate layout.indent ' ' ++
    (List.replicate layout.level '#' ++ (layout.gap ++ (title ++ layout.closed)))

/-- A title does not end with a space or tab and only number signs behind it. -/
def IsUnclosed (title : List Char) : Prop :=
  ∀ front mark signs, title = front ++ mark :: signs → isGap mark = true →
    ∃ sign ∈ signs, sign ≠ '#'

/-- A title that can be told from what closes a heading: it is on one line, has no white space at
its ends, and does not end like a heading that is closed. -/
structure IsDistinct (title : List Char) : Prop where
  begins : ∀ first ∈ title.head?, isBlank first = false
  ends : ∀ last ∈ title.getLast?, isBlank last = false
  nonempty : title ≠ []
  oneLine : '\n' ∉ title
  unclosed : IsUnclosed title

/-! ### Number signs at the end -/

/-- No gap stands before the number signs at the end of a title that is unclosed. -/
theorem isUnclosed_iff :
    IsUnclosed title ↔
      ∀ last ∈ (dropRightWhile (· == '#') title).getLast?, isGap last = false := by
  obtain ⟨signs, split, all, ends⟩ := exists_split_dropRightWhile (· == '#') title
  constructor
  · intro unclosed last member
    refine Bool.eq_false_iff.mpr fun gap => ?_
    obtain ⟨front, before⟩ := List.getLast?_eq_some_iff.mp member
    rw [before, List.append_assoc, List.singleton_append] at split
    obtain ⟨sign, inSigns, different⟩ := unclosed front last signs split gap
    exact different (beq_iff_eq.mp (all sign inSigns))
  · intro apart front mark behind whole gap
    by_contra none
    have allSigns : ∀ sign ∈ behind, (sign == '#') = true := fun sign member =>
      beq_iff_eq.mpr (Decidable.byContradiction fun different => none ⟨sign, member, different⟩)
    have noSign : ∀ last ∈ (front ++ [mark]).getLast?, (last == '#') = false := by
      rw [List.getLast?_concat]
      rintro _ ⟨⟩
      exact isSign_of_isGap gap
    have dropped : dropRightWhile (· == '#') title = front ++ [mark] := by
      rw [whole, ← List.singleton_append, ← List.append_assoc,
        dropRightWhile_append_of_all _ allSigns, dropRightWhile_of_getLast? noSign]
    have noGap := apart mark (by rw [dropped, List.getLast?_concat]; rfl)
    rw [gap] at noGap
    cases noGap

/-- Whether a title is distinct is found by looking at it. -/
theorem isDistinct_of_looks
    (looks : (title.head?.all (fun first => !isBlank first) &&
      title.getLast?.all (fun last => !isBlank last) && !title.isEmpty && !title.contains '\n' &&
      (dropRightWhile (· == '#') title).getLast?.all (fun last => !isGap last)) = true) :
    IsDistinct title := by
  simp only [Bool.and_eq_true, Bool.not_eq_true', Option.all_eq_true] at looks
  obtain ⟨⟨⟨⟨begins, ends⟩, nonempty⟩, oneLine⟩, apart⟩ := looks
  refine ⟨begins, ends, ?_, ?_, isUnclosed_iff.mpr apart⟩
  · simpa using nonempty
  · simpa using oneLine

theorem IsDistinct.noGap (isDistinct : IsDistinct title) :
    ∀ last ∈ title.getLast?, isGap last = false :=
  fun last member => isGap_of_isBlank (isDistinct.ends last member)

/-- A title without closing signs behind it is not shortened. -/
theorem IsDistinct.withoutClosing_eq (isDistinct : IsDistinct title) :
    withoutClosing title = title := by
  have bare : dropRightWhile isGap title = title :=
    dropRightWhile_of_getLast? isDistinct.noGap
  have opened : dropRightWhile isGap (dropRightWhile (· == '#') title) =
      dropRightWhile (· == '#') title :=
    dropRightWhile_of_getLast? (isUnclosed_iff.mp isDistinct.unclosed)
  rw [withoutClosing, bare, opened]
  simp

/-- What closes a heading is taken away, and no more. -/
theorem IsDistinct.withoutClosing_append (isDistinct : IsDistinct title) (closing : Closing) :
    withoutClosing (title ++ closing.text) = title := by
  have signs : ∀ sign ∈ List.replicate closing.signs '#', (sign == '#') = true := by simp
  have some : List.replicate closing.signs '#' ≠ [] := by
    have positive := closing.positive
    rw [ne_eq, List.replicate_eq_nil_iff]
    omega
  have bare : dropRightWhile isGap (title ++ closing.text) =
      title ++ closing.gap ++ List.replicate closing.signs '#' := by
    rw [Closing.text, ← List.append_assoc, ← List.append_assoc,
      dropRightWhile_append_of_all _ closing.isBehind, dropRightWhile_of_getLast?]
    intro last member
    rw [getLast?_append_of_ne_nil _ some] at member
    rw [List.eq_of_mem_replicate (List.mem_of_getLast? member)]
    decide
  have opened : dropRightWhile (· == '#')
      (title ++ closing.gap ++ List.replicate closing.signs '#') = title ++ closing.gap := by
    rw [dropRightWhile_append_of_all _ signs, dropRightWhile_of_getLast?]
    intro last member
    rw [getLast?_append_of_ne_nil _ closing.isGapRun.nonempty] at member
    exact isSign_of_isGap (closing.isGapRun.all last (List.mem_of_getLast? member))
  have text : dropRightWhile isGap (title ++ closing.gap) = title := by
    rw [dropRightWhile_append_of_all _ closing.isGapRun.all,
      dropRightWhile_of_getLast? isDistinct.noGap]
  have gapped := List.length_pos_iff.mpr closing.isGapRun.nonempty
  have signed := List.length_pos_iff.mpr some
  rw [withoutClosing, bare, opened, text, if_pos]
  simp only [List.length_append, Bool.and_eq_true, decide_eq_true_eq, Bool.not_eq_true']
  exact ⟨⟨by omega, by omega⟩, List.isEmpty_eq_false_iff.mpr isDistinct.nonempty⟩

theorem Closing.oneLine (closing : Closing) : '\n' ∉ closing.text := by
  have noGap : isGap '\n' ≠ true := by decide
  have noSign : ¬(closing.signs ≠ 0 ∧ '\n' = '#') := fun both => absurd both.2 (by decide)
  simp only [Closing.text, List.mem_append, List.mem_replicate, not_or]
  exact ⟨fun member => noGap (closing.isGapRun.all _ member), noSign,
    fun member => noGap (closing.isBehind _ member)⟩

theorem IsDistinct.withoutClosing_closed (isDistinct : IsDistinct title) (layout : Layout) :
    withoutClosing (title ++ layout.closed) = title := by
  unfold Layout.closed
  cases layout.closing with
  | none => rw [Option.elim_none, List.append_nil, isDistinct.withoutClosing_eq]
  | some closing => exact isDistinct.withoutClosing_append closing

theorem Layout.oneLine (layout : Layout) : '\n' ∉ layout.closed := by
  unfold Layout.closed
  cases layout.closing with
  | none => exact List.not_mem_nil
  | some closing => exact closing.oneLine

/-- Behind the spaces stands a number sign. -/
theorem Layout.exists_line (layout : Layout) (title : List Char) :
    ∃ rest, List.replicate layout.level '#' ++ (layout.gap ++ (title ++ layout.closed)) =
        '#' :: rest ∧
      layout.line title = List.replicate layout.indent ' ' ++ '#' :: rest := by
  obtain ⟨less, level⟩ := Nat.exists_eq_add_of_le' layout.positive
  refine ⟨List.replicate less '#' ++ (layout.gap ++ (title ++ layout.closed)), ?_, ?_⟩
  · rw [level]
    rfl
  · rw [Layout.line, level]
    rfl

/-- A heading is read from its line as it was written, however it is laid out, if there are at most
three spaces and six number signs; with more of either the line is no heading. -/
theorem ofLine?_line (layout : Layout) (isDistinct : IsDistinct title) :
    Heading.ofLine? (layout.line title) =
      if layout.indent ≤ 3 ∧ layout.level ≤ 6 then some (layout.level, title) else none := by
  have positive := layout.positive
  obtain ⟨rest, signs, line⟩ := layout.exists_line title
  have dropped : dropIndent (layout.line title) =
      List.replicate (layout.indent - 3) ' ' ++ '#' :: rest := by
    rw [line]
    exact dropIndent_spaces layout.indent (by decide) rest
  by_cases within : layout.indent ≤ 3
  · rw [Nat.sub_eq_zero_of_le within, List.replicate_zero, List.nil_append, ← signs] at dropped
    have begins : ∀ first ∈ (title ++ layout.closed).head?, isGap first = false := by
      rw [List.head?_append_of_ne_nil _ isDistinct.nonempty]
      exact fun first member => isGap_of_isBlank (isDistinct.begins first member)
    have oneLine : '\n' ∉ title ++ layout.closed := fun feed =>
      (List.mem_append.mp feed).elim isDistinct.oneLine layout.oneLine
    rw [ofLine?_of_dropIndent layout.isGapRun begins
      (List.append_ne_nil_of_left_ne_nil isDistinct.nonempty _) oneLine dropped,
      isDistinct.withoutClosing_closed, trim, trimBy_of_ends isDistinct.begins isDistinct.ends]
    by_cases bound : layout.level ≤ 6
    · rw [if_neg (by omega), if_pos ⟨within, bound⟩]
    · rw [if_pos (by omega), if_neg fun both => bound both.2]
  · obtain ⟨more, spaces⟩ : ∃ more, layout.indent - 3 = more + 1 := ⟨layout.indent - 4, by omega⟩
    rw [spaces, List.replicate_succ, List.cons_append] at dropped
    rw [Heading.ofLine?_eq_none dropped (by decide), if_neg fun both => within both.1]

/-- A heading with all that a layout allows. -/
def wideLayout : Layout where
  indent := 3
  level := 6
  gap := [' ', '\t']
  closing := some
    ⟨['\t', ' '], 2, ['\t'], ⟨by decide, List.all_eq_true.mp (by decide)⟩, by decide,
      List.all_eq_true.mp (by decide)⟩
  positive := by decide
  isGapRun := ⟨by decide, List.all_eq_true.mp (by decide)⟩

theorem ofLine?_line_of_signs :
    IsDistinct "# to C#".toList ∧
      wideLayout.line "# to C#".toList = "   ###### \t# to C#\t ##\t".toList ∧
      Heading.ofLine? (wideLayout.line "# to C#".toList) = some (6, "# to C#".toList) ∧
      Heading.ofLine? ({ wideLayout with indent := 4 }.line "# to C#".toList) = none :=
  have isDistinct : IsDistinct "# to C#".toList := isDistinct_of_looks (by decide)
  ⟨isDistinct, by decide, (ofLine?_line wideLayout isDistinct).trans (if_pos (by decide)),
    (ofLine?_line { wideLayout with indent := 4 } isDistinct).trans (if_neg (by decide))⟩

end Heading

end LlmTxt

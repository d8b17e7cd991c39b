/-
This file writes the breaks between the lines of a text otherwise. Where line feeds are the only
breaks, any other break may stand in their place: the text is cut in the same places, and its lines
say the same and have the same numbers. They only begin at other bytes, because a break may take more
bytes than a line feed or fewer. Carriage returns need a word of their own. One before a line feed
would be taken together with it, but behind the change no line feed is left.

A break behind the last line, where there was none, does not even move a line: it comes behind all
of them. And a byte order mark is gone before the lines are cut.
-/

import LlmTxt.Proofs.Source.Joining
import Mathlib.Data.List.DropRight

namespace LlmTxt

/-! ### Other breaks -/

/-- The characters of a text with a break in place of each line feed. -/
def withBreaks (ending characters : List Char) : List Char :=
  characters.flatMap fun character => if character = '\n' then ending else [character]

/-- A text with a break in place of each line feed. -/
def respelled (ending text : String) : String :=
  String.ofList (withBreaks ending.toList text.toList)

/-- Line feeds are the only breaks of a text. -/
def BreaksByFeeds (characters : List Char) : Prop :=
  ∀ character ∈ characters, isLineBreak character = true → character = '\n'

/-- A line that ends with another break where it has ended with a line feed. -/
def RawLine.respelled (ending : List Char) (line : RawLine) : RawLine :=
  { line with ending := withBreaks ending line.ending }

theorem IsLineBreak.ne_nil {ending : List Char} (isBreak : IsLineBreak ending) : ending ≠ [] := by
  rcases isBreak with rfl | ⟨_, rfl, _⟩ <;> exact List.cons_ne_nil _ _

/-- No break is a byte order mark. -/
theorem IsLineBreak.head?_ne_mark {ending : List Char} (isBreak : IsLineBreak ending) :
    ending.head? ≠ some '\uFEFF' := by
  rcases isBreak with rfl | ⟨character, rfl, own⟩
  · decide
  · rintro ⟨⟩
    cases own

theorem withBreaks_cons (ending : List Char) (character : Char) (rest : List Char) :
    withBreaks ending (character :: rest) =
      (if character = '\n' then ending else [character]) ++ withBreaks ending rest :=
  List.flatMap_cons

/-- To write line feeds for line feeds changes nothing. -/
theorem withBreaks_feed (characters : List Char) : withBreaks ['\n'] characters = characters := by
  induction characters with
  | nil => rfl
  | cons character rest inductionHypothesis =>
    rw [withBreaks_cons, inductionHypothesis]
    split
    · rename_i same
      rw [same]
      rfl
    · rfl

/-- A line feed is left only where the break begins with one. -/
theorem head?_withBreaks {ending : List Char} (isBreak : IsLineBreak ending)
    (feedless : ending.head? ≠ some '\n') (characters : List Char) :
    (withBreaks ending characters).head? ≠ some '\n' := by
  cases characters with
  | nil => exact nofun
  | cons character rest =>
    rw [withBreaks_cons]
    split
    · rwa [List.head?_append_of_ne_nil _ isBreak.ne_nil]
    · rename_i different
      rintro ⟨⟩
      exact different rfl

/-- With other breaks a text is cut in the same places. -/
theorem rawLines_withBreaks {ending characters : List Char} (isBreak : IsLineBreak ending)
    (feeds : BreaksByFeeds characters) :
    rawLines (withBreaks ending characters) =
      (rawLines characters).map (RawLine.respelled ending) := by
  by_cases feed : ending = ['\n']
  · have same (line : RawLine) : line.respelled ['\n'] = line := by
      unfold RawLine.respelled
      rw [withBreaks_feed]
    rw [feed, withBreaks_feed, List.map_congr_left fun line _ => same line, List.map_id']
  have feedless : ending.head? ≠ some '\n' := by
    rcases isBreak with rfl | ⟨_, rfl, _⟩
    · exact nofun
    · rintro ⟨⟩
      exact feed rfl
  induction characters with
  | nil => rfl
  | cons character rest inductionHypothesis =>
    obtain ⟨own, others⟩ := List.forall_mem_cons.mp feeds
    have further := inductionHypothesis others
    rw [withBreaks_cons]
    by_cases same : character = '\n'
    · have alone : character = '\r' → rest.head? ≠ some '\n' := by
        rw [same]
        exact nofun
      have broken : isLineBreak character = true := same ▸ by decide
      have ended : IsEnded ending := isBreak.isEnded []
      have single : withBreaks ending ['\n'] = ending := List.append_nil ending
      rw [if_pos same, rawLines_append ended (head?_withBreaks isBreak feedless rest),
        isBreak.rawLines_eq, rawLines_cons_of_break broken alone, further, same, List.map_cons,
        RawLine.respelled, single]
      rfl
    · have unbroken : isLineBreak character = false :=
        Bool.eq_false_iff.mpr fun broken => same (own broken)
      rw [if_neg same, List.singleton_append, rawLines_cons_of_content unbroken,
        rawLines_cons_of_content unbroken, further]
      cases rawLines rest <;> rfl

/-! ### A break behind the last line -/

theorem rawLines_append_break {ending line : List Char} (isBreak : IsLineBreak ending)
    (unbroken : ∀ character ∈ line, isLineBreak character = false) :
    rawLines (line ++ ending) = [⟨line, ending⟩] := by
  induction line with
  | nil => exact isBreak.rawLines_eq
  | cons character rest inductionHypothesis =>
    obtain ⟨own, others⟩ := List.forall_mem_cons.mp unbroken
    rw [List.cons_append, rawLines_cons_of_content own, inductionHypothesis others]

/-- A text that ends with no break is cut behind its last one. -/
theorem exists_last_line {characters : List Char} {last : Char}
    (ends : characters.getLast? = some last) (goesOn : isLineBreak last = false) :
    ∃ front line, characters = front ++ line ∧ IsEnded front ∧ line ≠ [] ∧
      ∀ character ∈ line, isLineBreak character = false := by
  refine ⟨characters.rdropWhile fun character => !isLineBreak character,
    characters.rtakeWhile fun character => !isLineBreak character,
    List.rdropWhile_append_rtakeWhile.symm, ?_, ?_, ?_⟩
  · intro own member
    obtain ⟨nonempty, rfl⟩ := List.mem_getLast?_eq_getLast member
    have stays := List.rdropWhile_last_not _ characters nonempty
    rwa [Bool.not_eq_true, Bool.not_eq_false'] at stays
  · intro empty
    obtain ⟨nonempty, rfl⟩ := List.mem_getLast?_eq_getLast ends
    refine List.rtakeWhile_eq_nil_iff.mp empty nonempty ?_
    rw [goesOn]
    rfl
  · intro character member
    have stays := List.mem_rtakeWhile_imp member
    rwa [Bool.not_eq_true'] at stays

/-- A break behind a last line that has none ends it, and all lines are where they were. -/
theorem numberLines_append_break {ending characters : List Char} (isBreak : IsLineBreak ending)
    {last : Char} (ends : characters.getLast? = some last) (goesOn : isLineBreak last = false)
    (number offset : Nat) :
    numberLines number offset (rawLines (characters ++ ending)) =
      numberLines number offset (rawLines characters) := by
  obtain ⟨front, line, rfl, ended, nonempty, unbroken⟩ := exists_last_line ends goesOn
  have apart : line.head? ≠ some '\n' := by
    intro feed
    cases unbroken '\n' (List.mem_of_head? feed)
  have stillApart : (line ++ ending).head? ≠ some '\n' := by
    rwa [List.head?_append_of_ne_nil _ nonempty]
  rw [List.append_assoc, rawLines_append ended stillApart, rawLines_append ended apart,
    rawLines_append_break isBreak unbroken, rawLines_of_unbroken unbroken nonempty,
    numberLines_append, numberLines_append]
  rfl

/-! ### Texts -/

namespace Source

/-- A byte order mark before a text that has none is dropped. -/
theorem ofString_withMark {text : String} (unmarked : text.toList.head? ≠ some '\uFEFF') :
    ofString ("\uFEFF" ++ text) = ofString text := by
  have begins : ("\uFEFF" ++ text).toList = '\uFEFF' :: text.toList := by
    rw [String.toList_append]
    rfl
  have marked := ofString_marked begins
  rw [← ofString_characters unmarked] at marked
  exact congrArg Source.mk marked

/-- A break behind a last line that has none changes no line. -/
theorem lines_append_break {text ending : String} (isBreak : IsLineBreak ending.toList)
    {last : Char} (ends : (ofString text).characters.getLast? = some last)
    (goesOn : isLineBreak last = false) :
    (ofString (text ++ ending)).lines = (ofString text).lines := by
  unfold lines
  rw [ofString_append isBreak.head?_ne_mark, numberLines_append_break isBreak ends goesOn]

/-- What other breaks make of a text without its byte order mark. -/
theorem ofString_respelled {ending text : String} (isBreak : IsLineBreak ending.toList) :
    (ofString (respelled ending text)).characters =
      withBreaks ending.toList (ofString text).characters := by
  have written : (respelled ending text).toList = withBreaks ending.toList text.toList :=
    String.toList_ofList
  by_cases marked : text.toList.head? = some '\uFEFF'
  · obtain ⟨rest, begins⟩ := List.head?_eq_some_iff.mp marked
    rw [ofString_marked begins]
    refine ofString_marked ?_
    rw [written, begins, withBreaks_cons, if_neg (by decide)]
    rfl
  · rw [ofString_characters marked, ofString_characters ?_, written]
    rw [written]
    cases begins : text.toList with
    | nil => exact nofun
    | cons first rest =>
      rw [begins] at marked
      rw [withBreaks_cons]
      split
      · rw [List.head?_append_of_ne_nil _ isBreak.ne_nil]
        exact isBreak.head?_ne_mark
      · exact marked

/-- With other breaks the lines of a text say the same. -/
theorem characters_lines_respelled {ending text : String} (isBreak : IsLineBreak ending.toList)
    (feeds : BreaksByFeeds text.toList) :
    (ofString (respelled ending text)).lines.map Line.characters =
      (ofString text).lines.map Line.characters := by
  have inside : BreaksByFeeds (ofString text).characters := by
    by_cases marked : text.toList.head? = some '\uFEFF'
    · obtain ⟨rest, begins⟩ := List.head?_eq_some_iff.mp marked
      rw [ofString_marked begins]
      rw [begins] at feeds
      exact fun character member => feeds character (List.mem_cons_of_mem _ member)
    · rwa [ofString_characters marked]
  rw [map_characters_lines, map_characters_lines, ofString_respelled isBreak,
    rawLines_withBreaks isBreak inside, List.map_map]
  rfl

end Source

end LlmTxt

/-
This file says which headings open the sections of the vocabulary. A title of the vocabulary is no
word for a module, however it is decorated, and so the kind of its section is looked up by what is
left without decoration. That is the title, and the section is of its kind, unless closing marks
stand before a colon; then the section is of unknown kind.
-/

import LlmTxt.Proofs.Document.Passages
import LlmTxt.Proofs.Heading
import LlmTxt.Proofs.Section.Titles

namespace LlmTxt

open Text SectionKind

/-! ### Titles that declare a module -/

/-- White space and marks fold to no letter. -/
theorem not_isAlpha_fold {character : Char}
    (around : isBlank character = true ∨ isDecoration character = true) :
    (fold character).isAlpha = false := by
  rcases around with blank | decorated
  · have all : blankPoints.all (fun point => !(fold (Char.ofNat point)).isAlpha) = true := by
      decide +kernel
    have own := List.all_eq_true.mp all _ (mem_blankPoints blank)
    rwa [Char.ofNat_toNat, Bool.not_eq_true'] at own
  · simp only [isDecoration, Bool.or_eq_true, beq_iff_eq] at decorated
    rcases decorated with (rfl | rfl) | rfl <;> decide

theorem fold_of_isAlpha {character : Char} (alpha : character.isAlpha = true) :
    fold character = character.toLower :=
  fold_of_isAscii (isTitleLetter_of_isAlpha alpha).ascii

/-- Letters that a text begins with, in any case, are those of the title that it spells. -/
theorem Spells.afterFolded? {text title lead tail rest : List Char} (spells : Spells text title)
    (letters : ∀ letter ∈ lead, letter.isAlpha = true)
    (found : afterFolded? lead (text ++ tail) = some rest) :
    title <+: lead ∨ ∃ back ending, rest = back ++ tail ∧ title = lead ++ ending ∧
      Spells back ending := by
  induction lead generalizing text title with
  | nil => exact Or.inr ⟨text, title, (Option.some.inj found).symm, rfl, spells⟩
  | cons letter lead inductionHypothesis =>
    obtain ⟨own, others⟩ := List.forall_mem_cons.mp letters
    cases spells with
    | nil => exact Or.inl List.nil_prefix
    | letter alpha spells =>
      rw [List.cons_append, Text.afterFolded?] at found
      split at found
      · rename_i same
        rw [fold_of_isAlpha alpha] at same
        subst same
        rcases inductionHypothesis spells others found with before | ⟨back, ending, rfl, rfl, more⟩
        · exact Or.inl ((List.prefix_cons_inj _).mpr before)
        · exact Or.inr ⟨back, ending, rfl, rfl, more⟩
      · cases found
    | @gap space _ _ _ isSpace alpha spells =>
      obtain ⟨first, more, rfl⟩ := List.exists_cons_of_ne_nil isSpace.nonempty
      rw [List.cons_append, List.cons_append, Text.afterFolded?] at found
      split at found
      · rename_i same
        rw [← same, not_isAlpha_fold (Or.inl (isSpace.blank first List.mem_cons_self))] at own
        cases own
      · cases found

/-! ### Headings of titles -/

/-- What holds of the titles of the vocabulary. -/
theorem vocabulary_titles : ∀ entry ∈ vocabulary,
    entry.1.toList.head?.all (· != ' ') = true ∧ entry.1.toList ≠ [] ∧
      entry.1.toList.getLast?.all (!isDecoration ·) = true ∧
      ¬entry.1.toList <+: "module".toList ∧
      vocabulary.find? (fun other => other.1.toList == entry.1.toList) = some entry := by
  decide +kernel

theorem isDecoration_getLast?_of_known {entry : String × SectionKind} (known : entry ∈ vocabulary)
    {last : Char} (ends : last ∈ entry.1.toList.getLast?) : isDecoration last = false := by
  obtain ⟨-, -, undecorated, -⟩ := vocabulary_titles entry known
  have unmarked := (Option.all_eq_true _ _).mp undecorated last ends
  rwa [Bool.not_eq_true'] at unmarked

/-- A text that spells a title of the vocabulary begins and ends with a letter. -/
theorem Spells.isTitleCore_of_known {entry : String × SectionKind} (known : entry ∈ vocabulary)
    {text : List Char} (spells : Spells text entry.1.toList) : IsTitleCore text := by
  obtain ⟨begins, nonempty, -⟩ := vocabulary_titles entry known
  have isTitleCore : IsTitleCore (text ++ []) :=
    spells.isTitleCore begins nonempty fun _ never => absurd never nofun
  rwa [List.append_nil] at isTitleCore

/-- A heading that declares a module has the word for it first, and a colon behind. -/
theorem exists_of_moduleOf? {text name : List Char} (declares : moduleOf? text = some name) :
    ∃ rest behind, afterFolded? "module".toList
        (trimBy (fun character => character == '*' || character == '_') (trim text)) = some rest ∧
      rest.dropWhile isBlank = ':' :: behind := by
  unfold moduleOf? at declares
  dsimp only at declares
  split at declares
  · cases declares
  · rename_i rest found
    split at declares
    · rename_i behind colon
      exact ⟨rest, behind, found, colon⟩
    · cases declares

/-- The word for a module and a colon are not read at the beginning of a text that spells a title
of the vocabulary, nor where white space or marks are before it. -/
theorem no_module {entry : String × SectionKind} (known : entry ∈ vocabulary)
    {text before tail rest behind : List Char} (spells : Spells text entry.1.toList)
    (around : ∀ character ∈ before, isBlank character = true ∨ isDecoration character = true)
    (found : afterFolded? "module".toList (before ++ (text ++ tail)) = some rest) :
    rest.dropWhile isBlank ≠ ':' :: behind := by
  obtain ⟨-, -, -, noModule, -⟩ := vocabulary_titles entry known
  cases before with
  | cons first more =>
    have letter : ('m').isAlpha = true := by decide
    have folded : fold first = 'm' := by
      obtain ⟨written, split, same⟩ := afterFolded?_eq_some_iff.mp found
      cases written with
      | nil => cases same
      | cons own others =>
        obtain ⟨rfl, -⟩ := List.cons.inj split
        exact (List.cons.inj same).1
    rw [← folded, not_isAlpha_fold (around first List.mem_cons_self)] at letter
    cases letter
  | nil =>
    rcases spells.afterFolded? (List.all_eq_true.mp rfl) found with
      early | ⟨back, ending, rfl, split, more⟩
    · exact absurd early noModule
    · have filled : ending ≠ [] := by
        rintro rfl
        rw [List.append_nil] at split
        exact noModule (split ▸ List.prefix_refl _)
      obtain ⟨first, others, letter, alpha⟩ := more.exists_letter_dropWhile filled tail
      rw [letter]
      exact fun same => (isTitleLetter_of_isAlpha alpha).noColon (List.cons.inj same).1

/-- A text that spells a title of the vocabulary declares no module, whatever marks and white space
are before it and whatever is behind it. -/
theorem moduleOf?_eq_none {entry : String × SectionKind} (known : entry ∈ vocabulary)
    {text lead : List Char} (spells : Spells text entry.1.toList)
    (around : ∀ character ∈ lead, isBlank character = true ∨ isDecoration character = true)
    (tail : List Char) : moduleOf? (lead ++ (text ++ tail)) = none := by
  have isTitleCore := spells.isTitleCore_of_known known
  refine Option.eq_none_iff_forall_ne_some.mpr fun name declares => ?_
  obtain ⟨rest, behind, found, colon⟩ := exists_of_moduleOf? declares
  unfold trim at found
  rw [isTitleCore.trimBy_eq fun _ => And.left, isTitleCore.trimBy_eq] at found
  · refine no_module known spells (fun character member => around character ?_) found colon
    exact (List.dropWhile_sublist _).subset ((List.dropWhile_sublist _).subset member)
  · rintro character ⟨-, undecorated⟩
    exact (Bool.or_eq_false_iff.mp undecorated).1

namespace TitleDecoration

variable {entry : String × SectionKind} (known : entry ∈ vocabulary) {text : List Char}
  (spells : Spells text entry.1.toList)

include known spells

/-- What a title of the vocabulary with decoration opens: its kind, unless it is misread. -/
theorem ofTitle_around (decoration : TitleDecoration) :
    ofTitle (decoration.around text) = if decoration.isMisread then unknown else entry.2 := by
  obtain ⟨begins, nonempty, -, -, found⟩ := vocabulary_titles entry known
  cases misread : decoration.isMisread with
  | true =>
    obtain ⟨mark, last, isMark⟩ :=
      exists_mark_of_isMisread spells begins nonempty decoration misread
    have missing : vocabulary.find? (fun other =>
        other.1.toList == normalizeTitle (decoration.around text)) = none := by
      refine List.find?_eq_none.mpr fun other member same => ?_
      rw [← beq_iff_eq.mp same] at last
      rw [isDecoration_getLast?_of_known member last] at isMark
      cases isMark
    rw [ofTitle, missing]
    rfl
  | false =>
    rw [ofTitle, normalizeTitle_around spells begins nonempty decoration misread, found]
    rfl

theorem normalizeTitle_around_iff (decoration : TitleDecoration) :
    normalizeTitle (decoration.around text) = entry.1.toList ↔ decoration.isMisread = false := by
  obtain ⟨begins, nonempty, -⟩ := vocabulary_titles entry known
  refine ⟨fun same => ?_, normalizeTitle_around spells begins nonempty decoration⟩
  by_contra misread
  obtain ⟨mark, last, isMark⟩ := exists_mark_of_isMisread spells begins nonempty decoration
    (Bool.not_eq_false _ ▸ misread)
  rw [same] at last
  rw [isDecoration_getLast?_of_known known last] at isMark
  cases isMark

end TitleDecoration

/-! ### Recognised titles -/

section Known

variable {entry : String × SectionKind} (known : entry ∈ vocabulary) {text : List Char}
  (spells : Spells text entry.1.toList)

include known spells

theorem TitleDecoration.isText_around (decoration : TitleDecoration)
    (oneLine : '\n' ∉ decoration.around text) : Heading.IsText (decoration.around text) := by
  have isTitleCore := spells.isTitleCore_of_known known
  obtain ⟨lead, tail, whole, -, behind⟩ := decoration.exists_around_append text
  have trimmed : trim (decoration.around text) =
      lead.dropWhile isBlank ++ (text ++ dropRightWhile isBlank tail) := by
    rw [whole]
    exact isTitleCore.trimBy_eq (fun _ => And.left) lead tail
  refine ⟨fun last member => ?_, ?_, oneLine⟩
  · have filled : text ++ dropRightWhile isBlank tail ≠ [] :=
      List.append_ne_nil_of_left_ne_nil isTitleCore.nonempty _
    rw [trimmed, getLast?_append_of_ne_nil _ filled] at member
    by_cases nothing : dropRightWhile isBlank tail = []
    · rw [nothing, List.append_nil] at member
      exact (isTitleLetter_of_isAlpha (spells.isAlpha_of_getLast? last member)).noSign
    · rw [getLast?_append_of_ne_nil _ nothing] at member
      have inTail := (dropRightWhile_sublist _ _).subset (List.mem_of_getLast? member)
      rintro rfl
      exact absurd (behind '#' inTail) (by decide)
  · rw [trimmed]
    exact List.append_ne_nil_of_right_ne_nil _
      (List.append_ne_nil_of_left_ne_nil isTitleCore.nonempty _)

/-- Two number signs and a decorated title are a heading of the second level with this text. -/
theorem TitleDecoration.ofLine?_around (decoration : TitleDecoration)
    (oneLine : '\n' ∉ decoration.around text) :
    Heading.ofLine? ("## ".toList ++ decoration.around text) =
      some (2, trim (decoration.around text)) := by
  have heading : Heading.ofLine? (List.replicate 2 '#' ++ ' ' :: decoration.around text) =
      some (2, trim (decoration.around text)) :=
    Heading.ofLine?_text (by decide) (by decide) (decoration.isText_around known spells oneLine)
  exact heading

/-- A heading of the second level with a title of the vocabulary begins a section of its kind, or of
unknown kind where the decoration is misread. -/
theorem Reading.readLine_around (decoration : TitleDecoration) {reading : Reading} {line : Line}
    (outside : reading.code = none)
    (heading : Heading.ofLine? line.characters = some (2, trim (decoration.around text))) :
    reading.readLine line = reading.openSection line 2 (trim (decoration.around text))
      (if decoration.isMisread then unknown else entry.2) none := by
  have noModule : moduleOf? (trim (decoration.around text)) = none := by
    obtain ⟨lead, tail, whole, before, -⟩ := decoration.exists_around_append text
    rw [whole, trim, (spells.isTitleCore_of_known known).trimBy_eq fun _ => And.left]
    exact moduleOf?_eq_none known spells
      (fun character member => before character ((List.dropWhile_sublist _).subset member)) _
  have kind : ofTitle (trim (decoration.around text)) =
      if decoration.isMisread then unknown else entry.2 := by
    rw [← decoration.ofTitle_around known spells, ofTitle, normalizeTitle_trim, ofTitle]
  refine Reading.readLine_of_opens outside (Heading.noFence heading) heading ?_
  rw [Reading.classify, noModule, kind]
  rfl

end Known

/-- For each title of the vocabulary, in any letter case and with any white space inside, and any
decoration around it: undoing decoration gives the title back if and only if no colon is outside
closing marks, and a heading of the second level with the text opens a section of the kind of the
title then, and one of unknown kind otherwise; number signs before the text make such a heading. To
undo decoration once more changes nothing, for any title, just where no mark is left at an end and no
colon at the end. -/
theorem decorated_titles_are_recognised {entry : String × SectionKind} (known : entry ∈ vocabulary)
    {text : List Char} (spells : Spells text entry.1.toList) (decoration : TitleDecoration)
    (title : List Char) :
    (normalizeTitle (decoration.around text) = entry.1.toList ↔ decoration.isMisread = false) ∧
      (∀ (reading : Reading) (line : Line), reading.code = none →
        Heading.ofLine? line.characters = some (2, trim (decoration.around text)) →
        reading.readLine line = reading.openSection line 2 (trim (decoration.around text))
          (if decoration.isMisread then unknown else entry.2) none) ∧
      ('\n' ∉ decoration.around text →
        Heading.ofLine? ("## ".toList ++ decoration.around text) =
          some (2, trim (decoration.around text))) ∧
      (normalizeTitle (normalizeTitle title) = normalizeTitle title ↔
        IsBareTitle (normalizeTitle title)) :=
  ⟨decoration.normalizeTitle_around_iff known spells,
    fun _ _ => Reading.readLine_around known spells decoration,
    decoration.ofLine?_around known spells, normalizeTitle_normalizeTitle_iff title⟩

/-- Bold marks and code marks around a title, with a colon inside them. -/
def boldCode : TitleDecoration where
  front := " ".toList
  opening := "**\x60".toList
  left := []
  colon := .inside " ".toList
  right := []
  closing := "\x60**".toList
  back := []
  blanks := List.all_eq_true.mp rfl
  marks := List.all_eq_true.mp rfl

theorem decorated_titles_are_recognised_in_capitals :
    normalizeTitle (boldCode.around "API\t INDEX".toList) = "api index".toList ∧
      (Reading.start #[]).readLine ⟨1, 0, "## **\x60API\t INDEX :\x60** ##".toList⟩ =
        (Reading.start #[]).openSection ⟨1, 0, "## **\x60API\t INDEX :\x60** ##".toList⟩ 2
          (trim (boldCode.around "API\t INDEX".toList)) index none ∧
      normalizeTitle (normalizeTitle "Module: x".toList) = normalizeTitle "Module: x".toList := by
  have known : ("api index", index) ∈ vocabulary := by decide
  have behind : Spells ['N', 'D', 'E', 'X'] ['n', 'd', 'e', 'x'] :=
    .letter (by decide) (.letter (by decide) (.letter (by decide) (.letter (by decide) .nil)))
  have spells : Spells "API\t INDEX".toList "api index".toList :=
    .letter (by decide) (.letter (by decide) (.letter (by decide)
      (@Spells.gap ['\t', ' '] 'I' _ _ ⟨List.cons_ne_nil _ _, List.all_eq_true.mp rfl⟩ (by decide)
        behind)))
  obtain ⟨undone, opens, -, again⟩ :=
    decorated_titles_are_recognised known spells boldCode "Module: x".toList
  refine ⟨undone.mpr (by decide), opens _ _ rfl (by decide +kernel), again.mpr ?_⟩
  have left : normalizeTitle "Module: x".toList = "module: x".toList := by decide +kernel
  rw [left]
  exact ⟨by rintro _ ⟨⟩; rfl, by rintro _ ⟨⟩; exact ⟨rfl, by decide⟩⟩

/-- Bold marks that close before the colon stay, and a second time takes them off. -/
theorem bold_title_before_colon_is_missed :
    normalizeTitle "**Index**:".toList = "index**".toList ∧
      ofTitle "**Index**:".toList = unknown ∧
      normalizeTitle (normalizeTitle "**Index**:".toList) = "index".toList := by
  decide +kernel

end LlmTxt

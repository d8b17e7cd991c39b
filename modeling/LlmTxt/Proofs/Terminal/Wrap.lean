/-
This file shows that a line that fits its column is laid out as it is. It is broken nowhere, because
its words together take no more places than the line, and nothing is cut off. All that is added are
spaces on one side. The line must hold no tab, for which spaces would be written, and no white space
at its end, of which some is dropped.
-/

import LlmTxt.Proofs.Terminal.Width
import LlmTxt.Proofs.Text.Pieces
import LlmTxt.Proofs.Text.Trim
import LlmTxt.Terminal.Wrap

namespace LlmTxt.Terminal

open Text

/-- Whether a text is one line that a terminal shows as it is: it holds neither a tab nor a line
break, and no white space at its end. -/
structure IsLine (text : List Char) : Prop where
  noTab : '\t' ∉ text
  noBreak : ∀ character ∈ text, isLineBreak character = false
  ends : ∀ last ∈ text.getLast?, isBlank last = false

/-! ### Words -/

/-- The places that words take one by one. -/
def totalPlaces (words : List (List Char)) : Nat :=
  (words.map places).foldr (· + ·) 0

theorem totalPlaces_cons (word : List Char) (rest : List (List Char)) :
    totalPlaces (word :: rest) = places word + totalPlaces rest :=
  rfl

/-- The words of a text are the text, unless all of it is white space before a word. -/
theorem flatten_spacedWordsFrom (part : WordPart) (pending text : List Char) :
    (part = .before ∧ spacedWordsFrom part pending text = []) ∨
      (spacedWordsFrom part pending text).flatten = pending.reverse ++ text := by
  fun_induction spacedWordsFrom part pending text with
  | case1 => exact Or.inl ⟨rfl, rfl⟩
  | case2 => exact Or.inr (by simp)
  | case3 part pending character rest _ inductionHypothesis =>
    rw [List.reverse_cons, List.append_assoc, List.singleton_append] at inductionHypothesis
    rcases inductionHypothesis with ⟨before, none⟩ | whole
    · refine Or.inl ⟨?_, none⟩
      by_contra started
      rw [if_neg started] at before
      cases before
    · exact Or.inr whole
  | case4 pending character rest _ inductionHypothesis =>
    rcases inductionHypothesis with ⟨before, _⟩ | whole
    · cases before
    · exact Or.inr (by rw [List.flatten_cons, whole]; rfl)
  | case5 part pending character rest _ _ inductionHypothesis =>
    rw [List.reverse_cons, List.append_assoc, List.singleton_append] at inductionHypothesis
    rcases inductionHypothesis with ⟨before, _⟩ | whole
    · cases before
    · exact Or.inr whole

/-- The words of a text take no more places than the text. A word is cut off behind white space,
which is no joiner. -/
theorem totalPlaces_spacedWordsFrom_le {part : WordPart} {pending : List Char} (text : List Char)
    (blank : part = .behind → ∀ last ∈ pending.head?, isBlank last = true) :
    totalPlaces (spacedWordsFrom part pending text) ≤ places (pending.reverse ++ text) := by
  fun_induction spacedWordsFrom part pending text with
  | case1 => exact Nat.zero_le _
  | case2 part pending => exact Nat.le_of_eq (by rw [List.append_nil]; rfl)
  | case3 part pending character rest isBlank inductionHypothesis =>
    rw [List.reverse_cons, List.append_assoc, List.singleton_append] at inductionHypothesis
    refine inductionHypothesis fun _ last first => ?_
    cases first
    exact isBlank
  | case4 pending character rest _ inductionHypothesis =>
    have free : pending.reverse.getLast? ≠ some '\u200d' := by
      intro joins
      rw [List.getLast?_reverse] at joins
      exact absurd (blank rfl _ joins) (by decide)
    calc totalPlaces (pending.reverse :: spacedWordsFrom .inside [character] rest)
        ≤ places pending.reverse + places (character :: rest) :=
          Nat.add_le_add_left (inductionHypothesis nofun) _
      _ ≤ places (pending.reverse ++ character :: rest) := placesAfter_add_places_le none free _
  | case5 part pending character rest _ _ inductionHypothesis =>
    rw [List.reverse_cons, List.append_assoc, List.singleton_append] at inductionHypothesis
    exact inductionHypothesis nofun

theorem places_dropRightWhile_le (inClass : Char → Bool) (word : List Char) :
    places (dropRightWhile inClass word) ≤ places word := by
  obtain ⟨back, split, -, -⟩ := exists_split_dropRightWhile inClass word
  calc places (dropRightWhile inClass word)
      ≤ places (dropRightWhile inClass word ++ back) := placesAfter_le_append none _ back
    _ = places word := by rw [← split]

/-! ### Lines -/

/-- Words that fit the line are all added to it. -/
theorem foldl_add_of_fits {layout : Layout} {words : List (List Char)} {filling : Filling}
    (fits : filling.used + totalPlaces words ≤ layout.width) :
    words.foldl (Filling.add layout) filling =
      ⟨filling.full, filling.line ++ words.flatten, filling.used + totalPlaces words⟩ := by
  induction words generalizing filling with
  | nil => simp [totalPlaces]
  | cons word rest inductionHypothesis =>
    have bare := places_dropRightWhile_le isBlank word
    rw [totalPlaces_cons] at fits
    have added : filling.add layout word =
        ⟨filling.full, filling.line ++ word, filling.used + places word⟩ := by
      unfold Filling.add
      dsimp only
      rw [if_pos (by omega)]
    rw [List.foldl_cons, added, inductionHypothesis (by dsimp only; omega), totalPlaces_cons,
      List.flatten_cons, List.append_assoc, Nat.add_assoc]

/-- A line that fits is not broken. -/
theorem breakLine_of_fits {layout : Layout} {line : List Char}
    (fits : places line ≤ layout.width) : breakLine layout line = [line] := by
  have start : WordPart.before = .behind → ∀ last ∈ ([] : List Char).head?, isBlank last = true :=
    nofun
  have room : totalPlaces (spacedWords line) ≤ layout.width :=
    (totalPlaces_spacedWordsFrom_le line start).trans fits
  unfold breakLine
  split
  · rfl
  · rename_i some
    have whole : (spacedWords line).flatten = line :=
      (flatten_spacedWordsFrom .before [] line).resolve_left fun none => some none.2
    have filled : line ≠ [] := by
      rintro rfl
      exact some rfl
    rw [foldl_add_of_fits (by rw [Filling.empty, Nat.zero_add]; exact room), whole]
    simp [Filling.closed, Filling.empty, filled]

theorem truncate_of_fits {layout : Layout} {line : List Char}
    (fits : places line ≤ layout.width) : truncate layout line = line :=
  if_pos fits

theorem dropExcess_of_ends {line : List Char} (ends : ∀ last ∈ line.getLast?, isBlank last = false)
    (width : Nat) : dropExcess width line = line := by
  have none : line.reverse.takeWhile isBlank = [] := by
    rw [← List.head?_reverse] at ends
    cases backwards : line.reverse with
    | nil => rfl
    | cons last rest =>
      rw [backwards] at ends
      exact List.takeWhile_cons_of_neg (by simp [ends last rfl])
  simp [dropExcess, none]

/-! ### Columns -/

/-- A text of one line that fits its column is laid out on one line. -/
theorem layOut_of_fits {layout : Layout} {text : List Char} (line : IsLine text)
    (fits : places text ≤ layout.width) :
    layOut layout text = [truncate layout (align layout text)] := by
  have noFeed : '\n' ∉ text := fun feed => absurd (line.noBreak _ feed) (by decide)
  have tabbed : expandTabs text = text := by
    rw [expandTabs, splitAt_of_notMem line.noTab]
    rfl
  have whole : (if layout.wraps then breakLine layout text else [text]) = [text] := by
    rw [breakLine_of_fits fits, ite_self]
  unfold layOut
  rw [splitAt_of_notMem noFeed, List.flatMap_singleton, tabbed]
  dsimp only
  rw [whole, List.map_singleton, dropExcess_of_ends line.ends]

/-- A text that is shown with nothing but spaces around it. -/
def IsPadded (text shown : List Char) : Prop :=
  ∃ before behind, shown = List.replicate before ' ' ++ text ++ List.replicate behind ' '

theorem isPadded_padRight (width : Nat) (text : List Char) : IsPadded text (padRight width text) :=
  ⟨0, width - places text, rfl⟩

theorem isPadded_padLeft (width : Nat) (text : List Char) : IsPadded text (padLeft width text) :=
  ⟨width - places text, 0, by rw [List.replicate_zero, List.append_nil]; rfl⟩

theorem places_padRight_le {width : Nat} {text : List Char} (fits : places text ≤ width) :
    places (padRight width text) ≤ width := by
  have behind := placesAfter_append_spaces_le none text (width - places text)
  unfold padRight places at *
  omega

theorem places_padLeft_le {width : Nat} {text : List Char} (fits : places text ≤ width) :
    places (padLeft width text) ≤ width := by
  have before := places_spaces_append_le (width - places text) text
  unfold padLeft
  omega

theorem IsPadded.padRight {text shown : List Char} (padded : IsPadded text shown) (width : Nat) :
    IsPadded text (padRight width shown) := by
  obtain ⟨before, behind, rfl⟩ := padded
  unfold Terminal.padRight
  generalize width - places _ = gap
  refine ⟨before, behind + gap, ?_⟩
  rw [List.append_assoc _ (List.replicate behind ' '), List.replicate_append_replicate]

/-- A text of one line that fits its column is shown on one line that fits it, with spaces around
it. -/
theorem exists_layOut {layout : Layout} {text : List Char} (line : IsLine text)
    (fits : places text ≤ layout.width) :
    ∃ shown, layOut layout text = [shown] ∧ IsPadded text shown ∧ places shown ≤ layout.width := by
  have bare : dropRightWhile isBlank text = text := dropRightWhile_of_getLast? line.ends
  have aligned : IsPadded text (align layout text) ∧ places (align layout text) ≤ layout.width := by
    unfold align
    rw [bare, truncate_of_fits fits]
    cases layout.alignment with
    | none => exact ⟨⟨0, 0, by simp⟩, fits⟩
    | left => exact ⟨isPadded_padRight _ _, places_padRight_le fits⟩
    | right => exact ⟨isPadded_padLeft _ _, places_padLeft_le fits⟩
  refine ⟨align layout text, ?_, aligned⟩
  rw [layOut_of_fits line fits, truncate_of_fits aligned.2]

/-! ### Surrogates -/

theorem isWhole_of_mem_splitAt {separator : Char} (plain : isStandIn separator = false)
    {text : List Char} (whole : IsWhole text) : ∀ piece ∈ splitAt separator text, IsWhole piece := by
  rw [← intercalate_splitAt separator text] at whole
  exact (isWhole_intercalate (List.forall_mem_singleton.mpr plain)).mp whole

theorem isWhole_joinTabbed {column : Nat} {parts : List (List Char)}
    (whole : ∀ part ∈ parts, IsWhole part) : IsWhole (joinTabbed column parts) := by
  fun_induction joinTabbed column parts with
  | case1 => exact nofun
  | case2 column part => exact whole part List.mem_cons_self
  | case3 column part rest _ stop gap inductionHypothesis =>
    obtain ⟨own, others⟩ := List.forall_mem_cons.mp whole
    have blank : isStandIn ' ' = false := by decide
    have spaces := isWhole_cons.mpr ⟨blank, isWhole_replicate blank gap⟩
    exact isWhole_append.mpr
      ⟨isWhole_append.mpr ⟨own, spaces⟩, inductionHypothesis others⟩

theorem isWhole_spacedWords {line : List Char} (whole : IsWhole line) :
    ∀ word ∈ spacedWords line, IsWhole word := by
  rcases flatten_spacedWordsFrom .before [] line with ⟨-, none⟩ | words
  · rw [spacedWords, none]
    exact nofun
  · rw [List.reverse_nil, List.nil_append] at words
    rw [← words] at whole
    exact List.forall_mem_flatten.mp whole

theorem isWhole_foldWord {width used : Nat} {pending : List Char} {clusters : List Cluster}
    (own : IsWhole pending) (whole : ∀ cluster ∈ clusters, IsWhole cluster.text) :
    ∀ part ∈ foldWord width used pending clusters, IsWhole part := by
  fun_induction foldWord width used pending clusters with
  | case1 => exact nofun
  | case2 => exact List.forall_mem_singleton.mpr own
  | case3 used pending cluster rest _ inductionHypothesis =>
    obtain ⟨first, others⟩ := List.forall_mem_cons.mp whole
    exact List.forall_mem_cons.mpr ⟨own, inductionHypothesis first others⟩
  | case4 used pending cluster rest _ inductionHypothesis =>
    obtain ⟨first, others⟩ := List.forall_mem_cons.mp whole
    exact inductionHypothesis (isWhole_append.mpr ⟨own, first⟩) others

namespace Filling

/-- Whether the lines of a filling hold no surrogate. -/
structure IsWhole (filling : Filling) : Prop where
  full : ∀ line ∈ filling.full, Text.IsWhole line
  line : Text.IsWhole filling.line

theorem IsWhole.closed {filling : Filling} (whole : filling.IsWhole) :
    ∀ line ∈ filling.closed, Text.IsWhole line := by
  unfold Filling.closed
  split_ifs
  · exact whole.full
  · exact List.forall_mem_append.mpr ⟨whole.full, List.forall_mem_singleton.mpr whole.line⟩

/-- Words without surrogates leave the lines without surrogates. -/
theorem IsWhole.add {filling : Filling} (whole : filling.IsWhole) {word : List Char}
    (own : Text.IsWhole word) (layout : Layout) : (filling.add layout word).IsWhole := by
  have joined : Text.IsWhole (filling.line ++ word) := isWhole_append.mpr ⟨whole.line, own⟩
  have parts : ∀ part ∈ foldWord layout.width 0 [] (clusters word), Text.IsWhole part :=
    isWhole_foldWord nofun (isWhole_flatMap.mp (by rwa [flatMap_clusters]))
  unfold Filling.add
  dsimp only
  split_ifs
  · exact ⟨whole.full, joined⟩
  · split
    · exact ⟨whole.closed, own⟩
    · refine ⟨fun line member => ?_, ?_⟩
      · rcases List.mem_append.mp ((List.dropWhile_sublist _).subset member) with before | inWord
        · exact whole.closed line before
        · exact parts line (List.dropLast_subset _ inWord)
      · rw [List.getLastD_eq_getLast?]
        cases last : (foldWord layout.width 0 [] (clusters word)).getLast? with
        | none => exact nofun
        | some part => exact parts part (List.mem_of_getLast? last)
  · exact ⟨whole.full, joined⟩
  · exact ⟨whole.closed, own⟩

theorem IsWhole.foldl_add {filling : Filling} (whole : filling.IsWhole)
    {words : List (List Char)} (each : ∀ word ∈ words, Text.IsWhole word) (layout : Layout) :
    (words.foldl (Filling.add layout) filling).IsWhole := by
  induction words generalizing filling with
  | nil => exact whole
  | cons word rest inductionHypothesis =>
    obtain ⟨own, others⟩ := List.forall_mem_cons.mp each
    exact inductionHypothesis (whole.add own layout) others

end Filling

theorem isWhole_breakLine {line : List Char} (whole : IsWhole line) (layout : Layout) :
    ∀ part ∈ breakLine layout line, IsWhole part := by
  unfold breakLine
  split
  · exact List.forall_mem_singleton.mpr whole
  · have start : Filling.empty.IsWhole := ⟨nofun, nofun⟩
    exact (start.foldl_add (isWhole_spacedWords whole) layout).closed

theorem isWhole_truncate {line : List Char} (whole : IsWhole line) (layout : Layout) :
    IsWhole (truncate layout line) := by
  unfold truncate
  split_ifs
  · exact whole
  · cases layout.overflow with
    | fold => exact isWhole_fit whole _
    | ellipsis => exact isWhole_append.mpr ⟨isWhole_fit whole _, by decide⟩

theorem isWhole_align {line : List Char} (whole : IsWhole line) (layout : Layout) :
    IsWhole (align layout line) := by
  have spaces (count : Nat) := isWhole_replicate (show isStandIn ' ' = false by decide) count
  have bare : IsWhole (dropRightWhile isBlank line) := by
    obtain ⟨back, split, -, -⟩ := exists_split_dropRightWhile isBlank line
    rw [split] at whole
    exact (isWhole_append.mp whole).1
  unfold align
  cases layout.alignment with
  | none => exact whole
  | left => exact isWhole_append.mpr ⟨isWhole_truncate whole layout, spaces _⟩
  | right => exact isWhole_append.mpr ⟨spaces _, isWhole_truncate bare layout⟩

/-- A text without surrogates is laid out without surrogates, whatever the room for it. -/
theorem isWhole_layOut {text : List Char} (whole : IsWhole text) (layout : Layout) :
    ∀ line ∈ layOut layout text, IsWhole line := by
  intro line member
  obtain ⟨written, inText, inParts⟩ := List.mem_flatMap.mp member
  dsimp only at inParts
  obtain ⟨part, inLine, rfl⟩ := List.mem_map.mp inParts
  have own := isWhole_of_mem_splitAt (by decide) whole written inText
  have tabbed : IsWhole (expandTabs written) :=
    isWhole_joinTabbed (isWhole_of_mem_splitAt (by decide) own)
  have broken : IsWhole part := by
    split_ifs at inLine
    · exact isWhole_breakLine tabbed layout part inLine
    · rwa [List.mem_singleton.mp inLine]
  have cut : IsWhole (dropExcess layout.width part) :=
    fun character inside => broken character (List.mem_of_mem_take inside)
  exact isWhole_truncate (isWhole_align cut layout) layout

end LlmTxt.Terminal

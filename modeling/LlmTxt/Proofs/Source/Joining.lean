/-
This file puts texts together and cuts them between their lines. Where a text ends with a line
break, the lines of a text behind it stay what they are: they are only numbered on, and begin
later by the bytes before them. A carriage return with its line feed is one break, so the cut must
not go between these two. A byte order mark belongs to the first text only.
-/

import LlmTxt.Proofs.Source

namespace LlmTxt

/-! ### Lines of two texts -/

/-- A text is one line break. -/
def IsLineBreak (ending : List Char) : Prop :=
  ending = ['\r', '\n'] ∨ ∃ character, ending = [character] ∧ isLineBreak character = true

/-- A text ends with a line break, unless it is empty. -/
def IsEnded (characters : List Char) : Prop :=
  ∀ last ∈ characters.getLast?, isLineBreak last = true

theorem IsLineBreak.isEnded {ending : List Char} (isBreak : IsLineBreak ending)
    (characters : List Char) : IsEnded (characters ++ ending) := by
  intro last member
  rcases isBreak with rfl | ⟨character, rfl, own⟩
  · rw [List.getLast?_append_of_ne_nil _ (by simp)] at member
    cases member
    decide
  · rw [List.getLast?_concat] at member
    cases member
    exact own

theorem IsEnded.of_cons {character : Char} {rest : List Char}
    (ended : IsEnded (character :: rest)) : IsEnded rest := by
  intro last member
  refine ended last ?_
  cases rest with
  | nil => cases member
  | cons next more => rwa [List.getLast?_cons_cons]

/-- A break that no line feed completes ends a line. -/
theorem rawLines_cons_of_break {character : Char} (isBreak : isLineBreak character = true)
    {rest : List Char} (alone : character = '\r' → rest.head? ≠ some '\n') :
    rawLines (character :: rest) = ⟨[], [character]⟩ :: rawLines rest := by
  rw [rawLines, if_pos isBreak]
  rintro more rfl rfl
  exact alone rfl rfl

/-- A character that is no break belongs to the line that goes on behind it. -/
theorem rawLines_cons_of_content {character : Char} (noBreak : isLineBreak character = false)
    (rest : List Char) :
    rawLines (character :: rest) =
      match rawLines rest with
      | [] => [⟨[character], []⟩]
      | line :: more => { line with content := character :: line.content } :: more := by
  have single : ∀ more, character = '\r' → rest = '\n' :: more → False := by
    rintro _ rfl
    cases noBreak
  exact (rawLines.eq_3 character rest single).trans (if_neg (Bool.eq_false_iff.mp noBreak))

theorem IsLineBreak.rawLines_eq {ending : List Char} (isBreak : IsLineBreak ending) :
    rawLines ending = [⟨[], ending⟩] := by
  rcases isBreak with rfl | ⟨character, rfl, own⟩
  · rfl
  · exact rawLines_cons_of_break own fun _ => nofun

theorem eq_nil_of_rawLines {characters : List Char} (noLine : rawLines characters = []) :
    characters = [] := by
  have whole := flatMap_written_rawLines characters
  rw [noLine] at whole
  exact whole.symm

/-- The lines of a text that ends with a break, and of one behind it. -/
theorem rawLines_append {front back : List Char} (ended : IsEnded front)
    (apart : back.head? ≠ some '\n') :
    rawLines (front ++ back) = rawLines front ++ rawLines back := by
  fun_induction rawLines front with
  | case1 => rfl
  | case2 rest inductionHypothesis =>
    rw [List.cons_append, List.cons_append, rawLines, inductionHypothesis ended.of_cons.of_cons]
    rfl
  | case3 character rest feedless isBreak inductionHypothesis =>
    have alone : character = '\r' → (rest ++ back).head? ≠ some '\n' := by
      intro same
      cases rest with
      | nil => exact apart
      | cons next more =>
        rintro ⟨⟩
        exact feedless more same rfl
    rw [List.cons_append, rawLines_cons_of_break isBreak alone,
      inductionHypothesis ended.of_cons]
    rfl
  | case4 character rest _ noBreak last inductionHypothesis =>
    -- Here the text is this character alone, and it would have to be a break.
    rw [eq_nil_of_rawLines last] at ended
    exact absurd (ended character rfl) noBreak
  | case5 character rest _ noBreak line more next inductionHypothesis =>
    have further := inductionHypothesis ended.of_cons
    rw [next] at further
    rw [List.cons_append, rawLines_cons_of_content (Bool.eq_false_iff.mpr noBreak), further]
    rfl

/-- A break at the end of a text ends its last line, or adds an empty one. -/
theorem content_rawLines_append_break {ending : List Char} (isBreak : IsLineBreak ending)
    (characters : List Char) :
    ∃ gap, (rawLines (characters ++ ending)).map RawLine.content =
      (rawLines characters).map RawLine.content ++ List.replicate gap [] := by
  fun_induction rawLines characters with
  | case1 =>
    refine ⟨1, ?_⟩
    rw [List.nil_append, isBreak.rawLines_eq]
    rfl
  | case2 rest inductionHypothesis =>
    obtain ⟨gap, same⟩ := inductionHypothesis
    refine ⟨gap, ?_⟩
    rw [List.cons_append, List.cons_append, rawLines, List.map_cons, same]
    rfl
  | case3 character rest feedless own inductionHypothesis =>
    obtain ⟨gap, same⟩ := inductionHypothesis
    by_cases alone : character = '\r' → (rest ++ ending).head? ≠ some '\n'
    · refine ⟨gap, ?_⟩
      rw [List.cons_append, rawLines_cons_of_break own alone, List.map_cons, same]
      rfl
    · -- A carriage return at the very end takes the line feed that comes behind it.
      rw [Classical.not_imp, not_not] at alone
      obtain ⟨rfl, feed⟩ := alone
      refine ⟨0, ?_⟩
      cases rest with
      | cons next more =>
        cases feed
        exact absurd rfl (feedless more rfl)
      | nil =>
        rcases isBreak with rfl | ⟨next, rfl, _⟩
        · cases feed
        · cases feed
          rfl
  | case4 character rest _ noBreak last inductionHypothesis =>
    refine ⟨0, ?_⟩
    rw [eq_nil_of_rawLines last, List.cons_append, List.nil_append,
      rawLines_cons_of_content (Bool.eq_false_iff.mpr noBreak), isBreak.rawLines_eq]
    rfl
  | case5 character rest _ noBreak line more next inductionHypothesis =>
    obtain ⟨gap, same⟩ := inductionHypothesis
    refine ⟨gap, ?_⟩
    rw [next, List.map_cons, List.cons_append] at same
    obtain ⟨first, others, cut, content, rests⟩ := List.map_eq_cons_iff.mp same
    rw [List.cons_append, rawLines_cons_of_content (Bool.eq_false_iff.mpr noBreak), cut]
    simp only [List.map_cons, content, rests, List.cons_append]

/-- A text without breaks is one line. -/
theorem rawLines_of_unbroken {line : List Char}
    (unbroken : ∀ character ∈ line, isLineBreak character = false) (nonempty : line ≠ []) :
    rawLines line = [⟨line, []⟩] := by
  induction line with
  | nil => exact absurd rfl nonempty
  | cons character rest inductionHypothesis =>
    obtain ⟨own, others⟩ := List.forall_mem_cons.mp unbroken
    rw [rawLines_cons_of_content own]
    cases rest with
    | nil => rfl
    | cons next more => rw [inductionHypothesis others (List.cons_ne_nil _ _)]

/-- Some first lines of a text, as they are written, begin with a line feed only if the text does. -/
theorem head?_eq_of_take_rawLines {characters : List Char} {count : Nat}
    (feed : (((rawLines characters).take count).flatMap RawLine.written).head? = some '\n') :
    characters.head? = some '\n' := by
  have whole := flatMap_written_rawLines characters
  rw [← List.take_append_drop count (rawLines characters), List.flatMap_append] at whole
  rw [← whole, List.head?_append, feed]
  rfl

/-- Some first lines of a text, as they are written, have these lines and no others. -/
theorem rawLines_take (characters : List Char) (count : Nat) :
    rawLines (((rawLines characters).take count).flatMap RawLine.written) =
      (rawLines characters).take count := by
  fun_induction rawLines characters generalizing count with
  | case1 =>
    rw [List.take_nil]
    rfl
  | case2 rest inductionHypothesis =>
    cases count with
    | zero => rfl
    | succ count =>
      rw [List.take_succ_cons, List.flatMap_cons]
      change rawLines
        ('\r' :: '\n' :: ((rawLines rest).take count).flatMap RawLine.written) = _
      rw [rawLines, inductionHypothesis]
  | case3 character rest feedless isBreak inductionHypothesis =>
    cases count with
    | zero => rfl
    | succ count =>
      have alone : character = '\r' →
          (((rawLines rest).take count).flatMap RawLine.written).head? ≠ some '\n' := by
        intro same feed
        obtain ⟨more, split⟩ := List.head?_eq_some_iff.mp (head?_eq_of_take_rawLines feed)
        exact feedless more same split
      rw [List.take_succ_cons, List.flatMap_cons]
      change rawLines (character :: ((rawLines rest).take count).flatMap RawLine.written) = _
      rw [rawLines_cons_of_break isBreak alone, inductionHypothesis]
  | case4 character rest _ noBreak last inductionHypothesis =>
    cases count with
    | zero => rfl
    | succ count =>
      rw [List.take_succ_cons, List.take_nil]
      exact rawLines_cons_of_content (Bool.eq_false_iff.mpr noBreak) []
  | case5 character rest _ noBreak line more next inductionHypothesis =>
    cases count with
    | zero => rfl
    | succ count =>
      have further := inductionHypothesis (count + 1)
      rw [next, List.take_succ_cons, List.flatMap_cons] at further
      rw [List.take_succ_cons, List.flatMap_cons]
      change rawLines (character :: (line.written ++ _)) = _
      rw [rawLines_cons_of_content (Bool.eq_false_iff.mpr noBreak), further]

/-! ### Lines in another place -/

/-- Where the lines and bytes of a text come to stand when it is put elsewhere. -/
structure Placement where
  line : Nat → Nat
  byte : Nat → Nat

namespace Placement

/-- The text stays where it is. -/
def here : Placement where
  line := id
  byte := id

/-- The text stands behind as many lines and as many bytes. -/
def behind (lines bytes : Nat) : Placement where
  line number := number + lines
  byte offset := offset + bytes

end Placement

/-- A line in another place. -/
def Line.moved (place : Placement) (line : Line) : Line :=
  { line with number := place.line line.number, offset := place.byte line.offset }

@[simp] theorem Line.characters_moved (place : Placement) (line : Line) :
    (line.moved place).characters = line.characters := rfl

theorem numberLines_append (number offset : Nat) (front back : List RawLine) :
    numberLines number offset (front ++ back) = numberLines number offset front ++
      numberLines (number + front.length)
        (offset + utf8Length (front.flatMap RawLine.written)) back := by
  induction front generalizing number offset with
  | nil => rfl
  | cons raw rest inductionHypothesis =>
    rw [List.cons_append, numberLines, numberLines, inductionHypothesis, List.flatMap_cons,
      utf8Length_append, utf8Length_written, List.length_cons, List.cons_append]
    simp only [Nat.add_assoc, Nat.add_comm 1 rest.length]

theorem take_numberLines (number offset count : Nat) (raws : List RawLine) :
    (numberLines number offset raws).take count = numberLines number offset (raws.take count) := by
  induction raws generalizing number offset count with
  | nil => rw [numberLines, List.take_nil, List.take_nil, numberLines]
  | cons raw rest inductionHypothesis =>
    cases count with
    | zero => rfl
    | succ count =>
      rw [numberLines, List.take_succ_cons, List.take_succ_cons, numberLines,
        inductionHypothesis]

theorem numberLines_moved (number offset lines bytes : Nat) (raws : List RawLine) :
    numberLines (number + lines) (offset + bytes) raws =
      (numberLines number offset raws).map (Line.moved (.behind lines bytes)) := by
  induction raws generalizing number offset with
  | nil => rfl
  | cons raw rest inductionHypothesis =>
    rw [numberLines, numberLines, List.map_cons, ← inductionHypothesis]
    simp only [Line.moved, Placement.behind, Nat.add_assoc, Nat.add_comm lines,
      Nat.add_comm bytes]

/-! ### Texts -/

namespace Source

theorem ofString_characters {text : String} (unmarked : text.toList.head? ≠ some '\uFEFF') :
    (ofString text).characters = text.toList := by
  unfold ofString
  split
  · rename_i rest begins
    rw [begins] at unmarked
    exact absurd rfl unmarked
  · rfl

theorem ofString_marked {text : String} {rest : List Char}
    (begins : text.toList = '\uFEFF' :: rest) : (ofString text).characters = rest := by
  unfold ofString
  rw [begins]
  rfl

/-- A text behind another, where the second does not begin with a byte order mark. -/
theorem ofString_append {front back : String}
    (unmarked : back.toList.head? ≠ some '\uFEFF') :
    (ofString (front ++ back)).characters = (ofString front).characters ++ back.toList := by
  by_cases marked : front.toList.head? = some '\uFEFF'
  · obtain ⟨rest, begins⟩ := List.head?_eq_some_iff.mp marked
    have whole : (front ++ back).toList = '\uFEFF' :: (rest ++ back.toList) := by
      rw [String.toList_append, begins]
      rfl
    rw [ofString_marked whole, ofString_marked begins]
  · have whole : (front ++ back).toList.head? ≠ some '\uFEFF' := by
      rw [String.toList_append, List.head?_append]
      cases begins : front.toList.head? with
      | none => exact unmarked
      | some first =>
        rw [begins] at marked
        exact marked
    rw [ofString_characters whole, ofString_characters marked, String.toList_append]

/-- The lines of a text behind another that ends with a line break. -/
theorem lines_append {front back : String} (ended : IsEnded (ofString front).characters)
    (unmarked : back.toList.head? ≠ some '\uFEFF') (apart : back.toList.head? ≠ some '\n') :
    (ofString (front ++ back)).lines = (ofString front).lines ++ (ofString back).lines.map
      (Line.moved (.behind (ofString front).lines.length
        (utf8Length (ofString front).characters))) := by
  unfold lines
  rw [ofString_append unmarked, ofString_characters unmarked, rawLines_append ended apart,
    numberLines_append, flatMap_written_rawLines, numberLines_moved, length_numberLines]

/-- The characters of the lines of a text. -/
theorem map_characters_lines (source : Source) :
    source.lines.map Line.characters = (rawLines source.characters).map RawLine.content := by
  refine List.ext_getElem? fun index => ?_
  rw [List.getElem?_map, List.getElem?_map, getElem?_lines, Option.map_map]
  rfl

/-- The lines of a text with one more line at its end, behind a line break. -/
theorem exists_characters_append (text : String) {ending : String}
    (isBreak : IsLineBreak ending.toList) {line : List Char}
    (unbroken : ∀ character ∈ line, isLineBreak character = false) (nonempty : line ≠ [])
    (unmarked : line.head? ≠ some '\uFEFF') :
    ∃ gap, (ofString (text ++ ending ++ String.ofList line)).lines.map Line.characters =
      (ofString text).lines.map Line.characters ++ (List.replicate gap [] ++ [line]) := by
  have unmarkedBreak : ending.toList.head? ≠ some '\uFEFF' := by
    rcases isBreak with ending | ⟨character, ending, own⟩
    · rw [ending]
      decide
    · rw [ending]
      rintro ⟨⟩
      cases own
  have apart : line.head? ≠ some '\n' := by
    intro begins
    obtain ⟨rest, rfl⟩ := List.head?_eq_some_iff.mp begins
    cases unbroken '\n' List.mem_cons_self
  have whole : (ofString (text ++ ending ++ String.ofList line)).characters =
      ((ofString text).characters ++ ending.toList) ++ line := by
    rw [ofString_append (by rw [String.toList_ofList]; exact unmarked), String.toList_ofList,
      ofString_append unmarkedBreak]
  obtain ⟨gap, front⟩ := content_rawLines_append_break isBreak (ofString text).characters
  refine ⟨gap, ?_⟩
  rw [map_characters_lines, map_characters_lines, whole,
    rawLines_append (isBreak.isEnded _) apart, List.map_append, front,
    rawLines_of_unbroken unbroken nonempty, List.append_assoc]
  rfl

end Source

/-- The text up to a line, with its byte order mark if it has one. -/
def textBefore (text : String) (number : Nat) : String :=
  let front := (Source.ofString text).before number
  String.ofList (if text.toList.head? = some '\uFEFF' then '\uFEFF' :: front else front)

namespace Source

theorem ofString_textBefore (text : String) (number : Nat) :
    (ofString (textBefore text number)).characters = (ofString text).before number := by
  unfold textBefore
  dsimp only
  split
  · exact ofString_marked String.toList_ofList
  · rename_i unmarked
    refine (ofString_characters ?_).trans String.toList_ofList
    rw [String.toList_ofList]
    -- What begins with a mark would have to begin the text.
    have whole := (ofString text).before_append_drop number
    rw [ofString_characters unmarked] at whole
    intro marked
    obtain ⟨rest, begins⟩ := List.head?_eq_some_iff.mp marked
    rw [whole, begins] at unmarked
    exact unmarked rfl

/-- The text up to a line has the lines before that line. -/
theorem lines_textBefore (text : String) (number : Nat) :
    (ofString (textBefore text number)).lines = (ofString text).lines.take (number - 1) := by
  unfold lines
  rw [ofString_textBefore, before, rawLines_take, take_numberLines]

end Source

end LlmTxt

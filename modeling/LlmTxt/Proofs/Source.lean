/-
This file shows that the lines of a document are where they say they are. Cutting a document into
lines loses nothing: the lines with their breaks, one behind the other, are the document. They
are numbered from one without a gap, and the offset of a line is the number of bytes that the
lines before it take, whatever breaks end them and however many bytes a character takes.

A span lies in a document if its lines are lines of it and its offset is that of its first line.
-/

import LlmTxt.Source
import LlmTxt.Span
import Mathlib.Data.List.Basic

namespace LlmTxt

/-! ### Bytes -/

theorem utf8Length_cons (character : Char) (rest : List Char) :
    utf8Length (character :: rest) = character.utf8Size + utf8Length rest := rfl

theorem utf8Length_append (front back : List Char) :
    utf8Length (front ++ back) = utf8Length front + utf8Length back := by
  induction front with
  | nil => exact (Nat.zero_add _).symm
  | cons character rest inductionHypothesis =>
    rw [List.cons_append, utf8Length_cons, utf8Length_cons, inductionHypothesis, Nat.add_assoc]

/-- The bytes that are counted are those of the text. -/
theorem utf8Length_eq (characters : List Char) :
    utf8Length characters = (String.ofList characters).utf8ByteSize := by
  induction characters with
  | nil => rfl
  | cons character rest inductionHypothesis =>
    rw [utf8Length_cons, inductionHypothesis, String.ofList_cons, String.utf8ByteSize_append,
      String.utf8ByteSize_singleton]

/-! ### Lines with their breaks -/

/-- A line as it is written, with the break that ends it. -/
def RawLine.written (line : RawLine) : List Char :=
  line.content ++ line.ending

/-- The lines of a text, one behind the other, are the text. -/
theorem flatMap_written_rawLines (characters : List Char) :
    (rawLines characters).flatMap RawLine.written = characters := by
  fun_induction rawLines characters with
  | case1 => rfl
  | case2 rest inductionHypothesis =>
    rw [List.flatMap_cons, inductionHypothesis]
    rfl
  | case3 character rest _ isBreak inductionHypothesis =>
    rw [List.flatMap_cons, inductionHypothesis]
    rfl
  | case4 character rest _ _ last inductionHypothesis =>
    rw [last] at inductionHypothesis
    rw [← inductionHypothesis]
    rfl
  | case5 character rest _ _ line more next inductionHypothesis =>
    rw [next] at inductionHypothesis
    rw [← inductionHypothesis]
    rfl

/-- No break stands inside a line. -/
theorem isLineBreak_of_mem_rawLines {characters : List Char} {line : RawLine}
    (member : line ∈ rawLines characters) {character : Char} (within : character ∈ line.content) :
    isLineBreak character = false := by
  fun_induction rawLines characters generalizing line with
  | case1 => cases member
  | case2 rest inductionHypothesis =>
    rcases List.mem_cons.mp member with rfl | later
    · cases within
    · exact inductionHypothesis later within
  | case3 own rest _ _ inductionHypothesis =>
    rcases List.mem_cons.mp member with rfl | later
    · cases within
    · exact inductionHypothesis later within
  | case4 own rest _ noBreak last =>
    rw [List.mem_singleton.mp member, List.mem_singleton] at within
    rw [within]
    exact Bool.eq_false_iff.mpr noBreak
  | case5 own rest _ noBreak first more next inductionHypothesis =>
    rw [next] at inductionHypothesis
    rcases List.mem_cons.mp member with rfl | later
    · rcases List.mem_cons.mp within with rfl | inside
      · exact Bool.eq_false_iff.mpr noBreak
      · exact inductionHypothesis List.mem_cons_self inside
    · exact inductionHypothesis (List.mem_cons_of_mem _ later) within

theorem utf8Length_written (line : RawLine) :
    utf8Length line.written = utf8Length line.content + utf8Length line.ending :=
  utf8Length_append _ _

theorem getElem?_numberLines (number offset index : Nat) (raws : List RawLine) :
    (numberLines number offset raws)[index]? = raws[index]?.map fun raw =>
      ⟨number + index, offset + utf8Length ((raws.take index).flatMap RawLine.written),
        raw.content⟩ := by
  induction raws generalizing number offset index with
  | nil => rfl
  | cons raw rest inductionHypothesis =>
    cases index with
    | zero => rfl
    | succ index =>
      rw [numberLines, List.getElem?_cons_succ, inductionHypothesis, List.getElem?_cons_succ,
        List.take_succ_cons, List.flatMap_cons, utf8Length_append, utf8Length_written]
      simp only [Nat.add_assoc, Nat.add_comm 1 index]

theorem length_numberLines (number offset : Nat) (raws : List RawLine) :
    (numberLines number offset raws).length = raws.length := by
  induction raws generalizing number offset with
  | nil => rfl
  | cons raw rest inductionHypothesis =>
    rw [numberLines, List.length_cons, inductionHypothesis, List.length_cons]

theorem map_number_numberLines (number offset : Nat) (raws : List RawLine) :
    (numberLines number offset raws).map Line.number = List.range' number raws.length := by
  induction raws generalizing number offset with
  | nil => rfl
  | cons raw rest inductionHypothesis =>
    rw [numberLines, List.map_cons, inductionHypothesis, List.length_cons, List.range'_succ]

namespace Source

/-! ### Where a line begins -/

/-- The characters of a document before the line of a number. -/
def before (source : Source) (number : Nat) : List Char :=
  ((rawLines source.characters).take (number - 1)).flatMap RawLine.written

/-- That many bytes of a document come before the line of a number, and if there is such a line,
the document goes on with it there. -/
structure BeginsAt (source : Source) (number bytes : Nat) : Prop where
  bytes_eq : bytes = (String.ofList (source.before number)).utf8ByteSize
  goes_on : ∃ behind, source.characters = source.before number ++ behind ∧
    ∀ line ∈ source.lines, line.number = number → line.characters <+: behind

theorem length_lines (source : Source) :
    source.lines.length = (rawLines source.characters).length :=
  length_numberLines _ _ _

theorem map_number_lines (source : Source) :
    source.lines.map Line.number = List.range' 1 source.lines.length := by
  rw [length_lines]
  exact map_number_numberLines 1 0 _

/-- The numbers of the lines increase. -/
theorem pairwise_lines (source : Source) :
    source.lines.Pairwise fun earlier later => earlier.number < later.number := by
  refine List.pairwise_map.mp ?_
  rw [map_number_lines]
  exact List.pairwise_lt_range' 1

/-- Lines that stand together in a text are numbered on from those before. -/
theorem map_number_of_split {source : Source} {front inner back : List Line}
    (cut : source.lines = front ++ (inner ++ back)) :
    inner.map Line.number = List.range' (front.length + 1) inner.length := by
  have numbers := source.map_number_lines
  rw [cut, List.map_append, List.map_append, List.length_append, List.length_append,
    ← List.range'_append_1, ← List.range'_append_1] at numbers
  have behind := List.append_inj_right numbers (by simp)
  have own := List.append_inj_left behind (by simp)
  rw [own, Nat.add_comm]

theorem getElem?_lines (source : Source) (index : Nat) :
    source.lines[index]? = (rawLines source.characters)[index]?.map fun raw =>
      ⟨index + 1, utf8Length (source.before (index + 1)), raw.content⟩ := by
  unfold lines
  rw [getElem?_numberLines]
  simp only [before, Nat.add_sub_cancel, Nat.zero_add, Nat.add_comm 1 index]

/-- What a line says of itself is so. -/
theorem mem_lines {source : Source} {line : Line} (member : line ∈ source.lines) :
    ∃ raw, (rawLines source.characters)[line.number - 1]? = some raw ∧
      1 ≤ line.number ∧ line.number ≤ source.lines.length ∧
      line.offset = utf8Length (source.before line.number) ∧ line.characters = raw.content := by
  obtain ⟨index, found⟩ := List.mem_iff_getElem?.mp member
  have bound : index < source.lines.length := (List.getElem?_eq_some_iff.mp found).1
  rw [getElem?_lines] at found
  obtain ⟨raw, there, rfl⟩ := Option.map_eq_some_iff.mp found
  exact ⟨raw, there, by simp, bound, rfl, rfl⟩

/-- The number of a line tells how many lines come before it. -/
theorem number_eq_of_split {source : Source} {before behind : List Line} {line : Line}
    (cut : source.lines = before ++ line :: behind) : line.number = before.length + 1 := by
  have found : source.lines[before.length]? = some line := by simp [cut]
  rw [getElem?_lines] at found
  obtain ⟨_, _, rfl⟩ := Option.map_eq_some_iff.mp found
  rfl

/-- The lines behind a line are those with greater numbers. -/
theorem mem_behind_iff {source : Source} {before behind : List Line} {line other : Line}
    (cut : source.lines = before ++ line :: behind) :
    other ∈ behind ↔ other ∈ source.lines ∧ line.number < other.number := by
  have increasing := source.pairwise_lines
  rw [cut] at increasing ⊢
  obtain ⟨_, later, earlier⟩ := List.pairwise_append.mp increasing
  have further := (List.pairwise_cons.mp later).1
  constructor
  · exact fun member => ⟨by simp [member], further other member⟩
  · rintro ⟨member, order⟩
    rcases List.mem_append.mp member with inFront | inRest
    · have reverse := earlier other inFront line List.mem_cons_self
      omega
    · rcases List.mem_cons.mp inRest with rfl | member
      · omega
      · exact member

theorem isLineBreak_of_mem {source : Source} {line : Line} (member : line ∈ source.lines)
    {character : Char} (within : character ∈ line.characters) :
    isLineBreak character = false := by
  obtain ⟨raw, there, _, _, _, same⟩ := mem_lines member
  exact isLineBreak_of_mem_rawLines (List.mem_of_getElem? there) (same ▸ within)

theorem before_append_drop (source : Source) (number : Nat) :
    source.characters = source.before number ++
      ((rawLines source.characters).drop (number - 1)).flatMap RawLine.written := by
  rw [before, ← List.flatMap_append, List.take_append_drop, flatMap_written_rawLines]

/-- The bytes before a line are counted rightly, whether or not there is such a line. -/
theorem beginsAt_before (source : Source) (number : Nat) :
    source.BeginsAt number (utf8Length (source.before number)) where
  bytes_eq := utf8Length_eq _
  goes_on := by
    refine ⟨_, source.before_append_drop number, ?_⟩
    intro line member rfl
    obtain ⟨raw, there, _, _, _, same⟩ := mem_lines member
    obtain ⟨bound, rfl⟩ := List.getElem?_eq_some_iff.mp there
    rw [List.drop_eq_getElem_cons bound, List.flatMap_cons, RawLine.written, same,
      List.append_assoc]
    exact List.prefix_append _ _

theorem beginsAt_of_mem {source : Source} {line : Line} (member : line ∈ source.lines) :
    source.BeginsAt line.number line.offset := by
  obtain ⟨_, _, _, _, offset, _⟩ := mem_lines member
  rw [offset]
  exact source.beginsAt_before line.number

/-- The first line begins at once. -/
theorem beginsAt_one (source : Source) : source.BeginsAt 1 0 :=
  source.beginsAt_before 1

end Source

/-! ### Spans -/

/-- A span lies in a document. A document without any line counts as one of one line. -/
structure Span.LiesIn (source : Source) (span : Span) : Prop where
  first_pos : 1 ≤ span.first
  first_le_last : span.first ≤ span.last
  last_le : span.last ≤ max 1 source.lines.length
  offset_begins : ∀ bytes, span.offset = some bytes → source.BeginsAt span.first bytes

namespace Span

/-- The first line is a place in every document. -/
theorem liesIn_lineAt_one (source : Source) : (Span.lineAt 1 0).LiesIn source where
  first_pos := Nat.le_refl 1
  first_le_last := Nat.le_refl 1
  last_le := Nat.le_max_left 1 _
  offset_begins := by
    rintro bytes ⟨⟩
    exact source.beginsAt_one

/-- A span without an offset lies in a document if its line is one of it. -/
theorem liesIn_line {source : Source} {number : Nat} (positive : 1 ≤ number)
    (bound : number ≤ max 1 source.lines.length) : (Span.line number).LiesIn source where
  first_pos := positive
  first_le_last := Nat.le_refl number
  last_le := bound
  offset_begins := by
    rintro bytes ⟨⟩

end Span

end LlmTxt

/-
This file says what a category lists when nothing is wrong with its text. Such a text is cut by its
backticks into codes and the pieces around them. Each code is a dotted name and perhaps a signature,
and the pieces, put together, are separators with perhaps one mark among them that says that the
category is empty.

A backtick that closes nothing goes to the text around. So where nothing is left over there is no
such backtick, and the text has no other cut.
-/

import LlmTxt.Outline.Bullet
import LlmTxt.Proofs.Name
import LlmTxt.Proofs.Text.Case
import Mathlib.Data.List.Forall2

namespace LlmTxt

open Text

/-! ### Texts with codes in them -/

/-- A code between backticks, and the piece behind it. -/
structure CodeSpan where
  code : List Char
  behind : List Char
  code_plain : '\x60' ∉ code
  code_ne_nil : code ≠ []
  behind_plain : '\x60' ∉ behind

/-- A code between its backticks, with the piece behind it. -/
def CodeSpan.text (span : CodeSpan) : List Char :=
  '\x60' :: (span.code ++ '\x60' :: span.behind)

/-- A text cut into codes and the pieces around them. -/
structure Listing where
  front : List Char
  spans : List CodeSpan
  front_plain : '\x60' ∉ front

namespace Listing

def text (listing : Listing) : List Char :=
  listing.front ++ listing.spans.flatMap CodeSpan.text

def codes (listing : Listing) : List (List Char) :=
  listing.spans.map CodeSpan.code

/-- The pieces around the codes, put together. -/
def around (listing : Listing) : List Char :=
  listing.front ++ listing.spans.flatMap CodeSpan.behind

/-- Before its first code, a text reaches to the first backtick. -/
theorem takeWhile_text (listing : Listing) :
    listing.text.takeWhile (· != '\x60') = listing.front := by
  have plain : ∀ character ∈ listing.front, (character != '\x60') = true := by
    intro character member
    exact bne_iff_ne.mpr fun same => listing.front_plain (same ▸ member)
  have none : (listing.spans.flatMap CodeSpan.text).takeWhile (· != '\x60') = [] := by
    cases listing.spans <;> rfl
  rw [text, List.takeWhile_append_of_pos plain, none, List.append_nil]

/-- The listing of no text. -/
def nil : Listing :=
  ⟨[], [], List.not_mem_nil⟩

/-- The listing with one character before it. -/
def cons (character : Char) (plain : character ≠ '\x60') (listing : Listing) : Listing where
  front := character :: listing.front
  spans := listing.spans
  front_plain := by
    rw [List.mem_cons, not_or]
    exact ⟨Ne.symm plain, listing.front_plain⟩

/-- The listing with one code before it. -/
def consCode (code : List Char) (plain : '\x60' ∉ code) (nonempty : code ≠ []) (listing : Listing) :
    Listing where
  front := []
  spans := ⟨code, listing.front, plain, nonempty, listing.front_plain⟩ :: listing.spans
  front_plain := List.not_mem_nil

theorem text_consCode {code : List Char} (plain : '\x60' ∉ code) (nonempty : code ≠ [])
    (listing : Listing) :
    (consCode code plain nonempty listing).text = '\x60' :: (code ++ '\x60' :: listing.text) := by
  unfold text consCode
  rw [List.nil_append, List.flatMap_cons, CodeSpan.text, List.cons_append, List.append_assoc]
  rfl

end Listing

namespace OutlineToken

theorem split_cons {character : Char} (plain : character ≠ '\x60') (rest : List Char) :
    split none (character :: rest) = ((split none rest).1, character :: (split none rest).2) := by
  rw [split, if_neg plain]

theorem split_some_append {code : List Char} (plain : '\x60' ∉ code) (before rest : List Char) :
    split (some before) (code ++ rest) = split (some (code.reverse ++ before)) rest := by
  induction code generalizing before with
  | nil => rfl
  | cons character more inductionHypothesis =>
    have different : character ≠ '\x60' := fun same => plain (same ▸ List.mem_cons_self)
    rw [List.cons_append, split, if_neg different,
      inductionHypothesis fun later => plain (List.mem_cons_of_mem _ later), List.reverse_cons,
      List.append_assoc]
    rfl

/-- A text between backticks is cut out. -/
theorem split_coded {code : List Char} (plain : '\x60' ∉ code) (nonempty : code ≠ [])
    (rest : List Char) :
    split none ('\x60' :: (code ++ '\x60' :: rest)) =
      (code :: (split none rest).1, (split none rest).2) := by
  have filled : (code.reverse ++ []).isEmpty = false := by simpa using nonempty
  rw [split, if_pos rfl, split_some_append plain, split, if_pos rfl, filled]
  simp

/-- What holds no backtick is all around. -/
theorem split_plain_append {front : List Char} (plain : '\x60' ∉ front) (rest : List Char) :
    split none (front ++ rest) = ((split none rest).1, front ++ (split none rest).2) := by
  induction front with
  | nil => rfl
  | cons character more inductionHypothesis =>
    have different : character ≠ '\x60' := fun same => plain (same ▸ List.mem_cons_self)
    rw [List.cons_append, split_cons different,
      inductionHypothesis fun later => plain (List.mem_cons_of_mem _ later)]
    rfl

theorem split_flatMap_spans (spans : List CodeSpan) :
    split none (spans.flatMap CodeSpan.text) =
      (spans.map CodeSpan.code, spans.flatMap CodeSpan.behind) := by
  induction spans with
  | nil => rfl
  | cons span rest inductionHypothesis =>
    have text : span.text ++ rest.flatMap CodeSpan.text =
        '\x60' :: (span.code ++ '\x60' :: (span.behind ++ rest.flatMap CodeSpan.text)) := by
      simp [CodeSpan.text]
    rw [List.flatMap_cons, text, split_coded span.code_plain span.code_ne_nil,
      split_plain_append span.behind_plain, inductionHypothesis]
    rfl

/-- A text is cut into its codes and what is around them. -/
theorem split_text (listing : Listing) :
    split none listing.text = (listing.codes, listing.around) := by
  unfold Listing.text
  rw [split_plain_append listing.front_plain, split_flatMap_spans]
  rfl

/-- A text is cut into codes and the pieces around them. Behind an open backtick and some of a code
it goes on with the rest of the code, the backtick that closes it, and a text that is cut. -/
def IsCut : (coded : Option (List Char)) → List Char → Prop
  | none, text => ∃ listing : Listing, listing.text = text
  | some before, text => ∃ more, ∃ listing : Listing, '\x60' ∉ more ∧
      before.reverse ++ more ≠ [] ∧ text = more ++ '\x60' :: listing.text

/-- Where no backtick is left around the codes, a text is cut. -/
theorem isCut_of_notMem (coded : Option (List Char)) (text : List Char) :
    '\x60' ∉ (split coded text).2 → IsCut coded text := by
  fun_induction split coded text with
  | case1 => exact fun _ => ⟨.nil, rfl⟩
  | case2 coded => exact fun noTick => absurd List.mem_cons_self noTick
  | case3 rest inductionHypothesis =>
    intro noTick
    obtain ⟨code, listing, plain, nonempty, rfl⟩ := inductionHypothesis noTick
    exact ⟨listing.consCode code plain nonempty, listing.text_consCode plain nonempty⟩
  | case4 character rest different codes around split_eq inductionHypothesis =>
    intro noTick
    rw [split_eq] at inductionHypothesis
    obtain ⟨listing, rfl⟩ := inductionHypothesis (List.not_mem_of_not_mem_cons noTick)
    exact ⟨listing.cons character different, rfl⟩
  | case5 coded rest empty codes around split_eq inductionHypothesis =>
    exact fun noTick => absurd List.mem_cons_self noTick
  | case6 coded rest nonempty codes around split_eq inductionHypothesis =>
    intro noTick
    rw [split_eq] at inductionHypothesis
    obtain ⟨listing, rfl⟩ := inductionHypothesis noTick
    exact ⟨[], listing, List.not_mem_nil, by simpa using nonempty, rfl⟩
  | case7 coded character rest different inductionHypothesis =>
    intro noTick
    obtain ⟨more, listing, plain, _, rfl⟩ := inductionHypothesis noTick
    refine ⟨character :: more, listing, ?_, by simp, rfl⟩
    rw [List.mem_cons, not_or]
    exact ⟨Ne.symm different, plain⟩

/-- A text around whose codes no backtick is left is cut in one way. -/
theorem exists_listing {text : List Char} (noTick : '\x60' ∉ (split none text).2) :
    ∃ listing : Listing, listing.text = text ∧
      split none text = (listing.codes, listing.around) := by
  obtain ⟨listing, rfl⟩ := isCut_of_notMem none text noTick
  exact ⟨listing, rfl, split_text listing⟩

/-! ### What may stand around codes -/

/-- A comma, a semicolon or white space. -/
def isSeparator (character : Char) : Bool :=
  character == ',' || character == ';' || isBlank character

/-- A text that says that a category is empty, in any letter case. -/
structure IsEmptyMark (mark : List Char) : Prop where
  known : emptyMarks.contains (lowerString (String.ofList mark)) = true
  unbroken : ∀ character ∈ mark, isSeparator character = false

/-- Separators, with perhaps one mark among them that says that a category is empty. -/
def IsIdle (around : List Char) : Prop :=
  ∃ before mark behind, around = before ++ (mark ++ behind) ∧
    (∀ character ∈ before, isSeparator character = true) ∧
    (∀ character ∈ behind, isSeparator character = true) ∧ (mark = [] ∨ IsEmptyMark mark)

theorem isSeparator_of_isBlank {character : Char} (blank : isBlank character = true) :
    isSeparator character = true := by
  rw [isSeparator, blank, Bool.or_true]

/-- A mark holds no character of ASCII, other than capital letters, that its known form does not. -/
theorem notMem_of_known {mark : List Char}
    (known : emptyMarks.contains (lowerString (String.ofList mark)) = true) {character : Char}
    (ascii : isAscii character = true) (small : character.toLower = character)
    (absent : emptyMarks.all (fun mark => !mark.toList.contains character) = true) :
    character ∉ mark := by
  intro member
  have inLower : character ∈ (lowerString (String.ofList mark)).toList := by
    rw [lowerString, String.toList_ofList, String.toList_ofList]
    exact mem_lowerFrom_of_small member ascii small
  have own := List.all_eq_true.mp absent _ (List.contains_iff_mem.mp known)
  rw [List.contains_iff_mem.mpr inLower] at own
  cases own

/-- Where runs of separators have become spaces, and what is left is a mark, there were no
separators inside. -/
theorem isEmptyMark_of_collapse {core : List Char}
    (known : emptyMarks.contains
      (lowerString (String.ofList (collapse isSeparator ' ' core))) = true) : IsEmptyMark core := by
  have unbroken : ∀ character ∈ core, isSeparator character = false := by
    intro character member
    refine Bool.eq_false_iff.mpr fun separator => ?_
    have space : ' ' ∈ collapse isSeparator ' ' core := mem_collapse_of_mem member separator
    exact notMem_of_known known rfl rfl (by decide) space
  have kept : collapse isSeparator ' ' core = core := collapseFrom_of_none unbroken
  rw [kept] at known
  exact ⟨known, unbroken⟩

theorem leftover?_eq (around : List Char) :
    leftover? around =
      if (trimBy isSeparator around).isEmpty || emptyMarks.contains (lowerString (String.ofList
        (collapse isSeparator ' ' (trimBy isSeparator around)))) then none
      else some (collapse isSeparator ' ' (trimBy isSeparator around)) := by
  have trimmed : trim (collapse isSeparator ' ' around) =
      collapse isSeparator ' ' (trimBy isSeparator around) :=
    trim_collapse (fun _ => isSeparator_of_isBlank) around
  have unfolded : leftover? around =
      if (trim (collapse isSeparator ' ' around)).isEmpty || emptyMarks.contains
        (lowerString (String.ofList (trim (collapse isSeparator ' ' around)))) then none
      else some (trim (collapse isSeparator ' ' around)) := rfl
  rw [unfolded, trimmed, isEmpty_collapse]

/-- Nothing is left over if and only if there are only separators around and perhaps a mark. -/
theorem leftover?_eq_none_iff {around : List Char} : leftover? around = none ↔ IsIdle around := by
  rw [leftover?_eq, ite_eq_left_iff]
  constructor
  · intro none
    obtain ⟨before, behind, split, beforeAll, behindAll, _⟩ :=
      exists_split_trimBy isSeparator around
    refine ⟨before, _, behind, split, beforeAll, behindAll, ?_⟩
    by_contra neither
    rw [not_or] at neither
    have left := none ?_
    · cases left
    · rw [Bool.or_eq_true, not_or, List.isEmpty_iff]
      exact ⟨neither.1, fun known => neither.2 (isEmptyMark_of_collapse known)⟩
  · rintro ⟨before, mark, behind, rfl, beforeAll, behindAll, empty | isMark⟩ some
    · subst empty
      have core : trimBy isSeparator (before ++ ([] ++ behind)) = [] :=
        trimBy_of_split beforeAll behindAll (by rintro _ ⟨⟩) (by rintro _ ⟨⟩)
      rw [core] at some
      exact absurd rfl some
    · have core : trimBy isSeparator (before ++ (mark ++ behind)) = mark :=
        trimBy_of_split beforeAll behindAll
          (fun first member => isMark.unbroken first (List.mem_of_head? member))
          fun last member => isMark.unbroken last (List.mem_of_getLast? member)
      have kept : collapse isSeparator ' ' mark = mark := collapseFrom_of_none isMark.unbroken
      rw [core, kept, isMark.known, Bool.or_true] at some
      exact absurd rfl some

theorem isIdle_of_all {around : List Char}
    (all : ∀ character ∈ around, isSeparator character = true) : IsIdle around :=
  ⟨around, [], [], (List.append_nil _).symm, all, by simp, Or.inl rfl⟩

/-- A character of ASCII, but no capital letter, stands around codes only if it is a separator or
belongs to a mark. -/
theorem IsIdle.notMem {around : List Char} (idle : IsIdle around) {character : Char}
    (noSeparator : isSeparator character = false) (ascii : isAscii character = true)
    (small : character.toLower = character)
    (absent : emptyMarks.all (fun mark => !mark.toList.contains character) = true) :
    character ∉ around := by
  obtain ⟨before, mark, behind, rfl, beforeAll, behindAll, isMark⟩ := idle
  have notSeparator {part : List Char} (all : ∀ other ∈ part, isSeparator other = true) :
      character ∉ part := by
    intro member
    rw [all _ member] at noSeparator
    cases noSeparator
  have notMark : character ∉ mark := by
    rcases isMark with rfl | isMark
    · exact List.not_mem_nil
    · exact notMem_of_known isMark.known ascii small absent
  simp only [List.mem_append, not_or]
  exact ⟨notSeparator beforeAll, notMark, notSeparator behindAll⟩

theorem IsIdle.noTick {around : List Char} (idle : IsIdle around) : '\x60' ∉ around :=
  idle.notMem rfl rfl rfl (by decide)

/-! ### What a text lists -/

/-- A code names a symbol: a dotted name, and a signature if there is anything behind it. -/
structure Names (code : List Char) (line : Nat) (token : OutlineToken) : Prop where
  line_eq : token.line = line
  split : ∃ lead name rest, code = lead ++ (name ++ rest) ∧
    (∀ character ∈ lead, isBlank character = true) ∧ Name.isPath name = true ∧
      token.name = String.ofList name ∧
        token.signature = if (trim rest).isEmpty then none else some (String.ofList (trim rest))

theorem names_of_ofCode? {code : List Char} {line : Nat} {token : OutlineToken}
    (found : ofCode? code line = some token) : Names code line token := by
  unfold ofCode? at found
  split at found
  · cases found
  · rename_i name rest taken
    cases found
    refine ⟨rfl, code.takeWhile isBlank, name, rest, ?_, ?_, Name.isPath_of_takePath? taken, rfl,
      rfl⟩
    · rw [← Name.append_of_takePath? taken, List.takeWhile_append_dropWhile]
    · exact fun character member => List.mem_takeWhile_imp member

theorem filterMap_eq_iff {Given Made : Type} {make? : Given → Option Made} {given : List Given}
    {made : List Made} :
    (given.filter (fun one => (make? one).isNone) = [] ∧ given.filterMap make? = made) ↔
      List.Forall₂ (fun one other => make? one = some other) given made := by
  induction given generalizing made with
  | nil => simp [eq_comm]
  | cons first rest inductionHypothesis =>
    cases own : make? first with
    | none => cases made <;> simp [own]
    | some result =>
      cases made with
      | nil => simp [own]
      | cons other more =>
        rw [List.filter_cons_of_neg (by simp [own]), List.filterMap_cons_some own, List.cons.injEq,
          List.forall₂_cons, ← inductionHypothesis, own, Option.some.injEq]
        exact ⟨fun ⟨noneLeft, same, others⟩ => ⟨same, noneLeft, others⟩,
          fun ⟨same, noneLeft, others⟩ => ⟨noneLeft, same, others⟩⟩

/-- Nothing is wrong with a text if and only if it is cut into codes that name symbols, with nothing
around them but separators and perhaps a mark. -/
theorem listed_eq_iff {text : List Char} {line : Nat} {tokens : List OutlineToken} :
    listed text line = (tokens, []) ↔
      ∃ listing : Listing, listing.text = text ∧ IsIdle listing.around ∧
        List.Forall₂ (fun code token => ofCode? code line = some token) listing.codes tokens := by
  have unfolded : listed text line = (tokens, []) ↔
      ((split none text).1.filter (fun code => (ofCode? code line).isNone) = [] ∧
        (split none text).1.filterMap (ofCode? · line) = tokens) ∧
      leftover? (split none text).2 = none := by
    unfold listed
    rw [Prod.mk.injEq, List.append_eq_nil_iff, List.map_eq_nil_iff]
    cases leftover? (split none text).2 <;> simp [and_comm]
  rw [unfolded, filterMap_eq_iff, leftover?_eq_none_iff]
  constructor
  · rintro ⟨named, idle⟩
    obtain ⟨listing, text_eq, split_eq⟩ := exists_listing idle.noTick
    rw [split_eq] at named idle
    exact ⟨listing, text_eq, idle, named⟩
  · rintro ⟨listing, rfl, idle, named⟩
    rw [split_text]
    exact ⟨named, idle⟩

/-! ### White space on both sides -/

/-- What holds no backtick is all around behind a text, too. -/
theorem split_append_plain {back : List Char} (plain : '\x60' ∉ back) (coded : Option (List Char))
    (text : List Char) :
    split coded (text ++ back) = ((split coded text).1, (split coded text).2 ++ back) := by
  fun_induction split coded text with
  | case1 =>
    have whole := split_plain_append plain []
    rw [List.append_nil] at whole
    rw [List.nil_append, whole]
    simp [split]
  | case2 coded =>
    have whole := split_some_append plain coded []
    rw [List.append_nil] at whole
    rw [List.nil_append, whole]
    simp [split]
  | case3 rest inductionHypothesis =>
    rw [List.cons_append, split, if_pos rfl]
    exact inductionHypothesis
  | case4 character rest different codes around split_eq inductionHypothesis =>
    rw [split_eq] at inductionHypothesis
    rw [List.cons_append, split, if_neg different, inductionHypothesis]
    rfl
  | case5 coded rest empty codes around split_eq inductionHypothesis =>
    rw [split_eq] at inductionHypothesis
    rw [List.cons_append, split, if_pos rfl, if_pos empty, inductionHypothesis]
    rfl
  | case6 coded rest nonempty codes around split_eq inductionHypothesis =>
    rw [split_eq] at inductionHypothesis
    rw [List.cons_append, split, if_pos rfl, if_neg nonempty, inductionHypothesis]
  | case7 coded character rest different inductionHypothesis =>
    rw [List.cons_append, split, if_neg different]
    exact inductionHypothesis

/-- White space on both sides of a text has no part in what it lists. -/
theorem listed_trim (text : List Char) (line : Nat) :
    listed (trim text) line = listed text line := by
  obtain ⟨front, back, split_eq, before, behind, _, _⟩ := exists_split_trimBy isBlank text
  have plain {part : List Char} (blank : ∀ character ∈ part, isBlank character = true) :
      '\x60' ∉ part := by
    intro tick
    have ownBlank := blank _ tick
    cases ownBlank
  have whole : split none text = ((split none (trim text)).1,
      front ++ ((split none (trim text)).2 ++ back)) := by
    refine (congrArg (split none) split_eq).trans ?_
    rw [split_plain_append (plain before), split_append_plain (plain behind)]
    rfl
  have same : leftover? (front ++ ((split none (trim text)).2 ++ back)) =
      leftover? (split none (trim text)).2 := by
    rw [leftover?_eq, leftover?_eq, trimBy_append_of_all _
      (fun character member => isSeparator_of_isBlank (before character member))
      fun character member => isSeparator_of_isBlank (behind character member)]
  unfold listed
  rw [whole]
  dsimp only
  rw [same]

end OutlineToken

end LlmTxt

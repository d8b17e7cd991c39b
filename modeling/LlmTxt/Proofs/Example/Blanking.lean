/-
This file states what blanking does to a line of Python. A reader who goes through the line from
left to right is in code, in a literal or in a comment: in code a quote opens a literal, which goes
up to the next same quote, and a number sign begins a comment, which goes up to the end. Blanking
counts instead how many characters of a string or comment are still to come. The two readings are
kept in step from character to character, and so each literal and each comment is blanked and
nothing else but the letters before a literal, as long as literals stand apart from the words before
them. One that directly follows a word is left as it is.
-/

import LlmTxt.Proofs.Example.Import
import LlmTxt.Proofs.Text.Case
import LlmTxt.Proofs.Text.Pieces
import Mathlib.Data.List.DropRight
import Mathlib.Data.List.Infix

namespace LlmTxt.Noise

open Text

/-! ### Reading from left to right -/

/-- A quote around literals of Python. -/
def isQuote (character : Char) : Bool :=
  character = '"' || character = '\''

/-- What a reader of a line is in. -/
inductive Place where
  | code
  | literal (mark : Char)
  | comment
deriving DecidableEq, Repr

namespace Place

/-- What a reader is in behind one more character. -/
def next : Place → Char → Place
  | code, character =>
    if isQuote character then literal character
    else if character = '#' then comment else code
  | literal mark, character => if character = mark then code else literal mark
  | comment, _ => comment

/-- A reader is in a literal. -/
def isLiteral : Place → Bool
  | literal _ => true
  | _ => false

/-- A character read at a place belongs to a literal or to a comment. -/
def covers : Place → Char → Bool
  | code, character => isQuote character || character = '#'
  | literal _, _ => true
  | comment, _ => true

end Place

/-- What a reader is in behind a text that begins in code. -/
def placeAfter (text : List Char) : Place :=
  text.foldl Place.next .code

/-- The word that a text ends with. -/
def lastWord (text : List Char) : List Char :=
  text.rtakeWhile isWord

/-- A word may stand before a literal: it has at most two letters, and these are such as do. -/
def IsStringPrefix (word : List Char) : Prop :=
  word.length ≤ 2 ∧ ∀ letter ∈ word, isStringLetter letter = true

instance (word : List Char) : Decidable (IsStringPrefix word) :=
  decidable_of_iff (word.length ≤ 2 ∧ word.all isStringLetter = true)
    (and_congr_right fun _ => List.all_eq_true)

/-- A text behind `before` begins with a letter of the word before a literal. -/
def IsLetterOf (before text : List Char) : Prop :=
  ∃ letters mark behind, text = letters ++ mark :: behind ∧ letters ≠ [] ∧ isQuote mark = true ∧
    IsStringPrefix (lastWord before ++ letters)

/-- A line, read from a place on, is one that literals are told apart in: it has no line feeds, no
backslashes and no three same quotes, and all its literals are closed. -/
structure IsLine (place : Place) (text : List Char) : Prop where
  plain : ∀ character ∈ text, character ≠ '\n' ∧ character ≠ '\\'
  untripled : ∀ mark, isQuote mark = true → ¬[mark, mark, mark] <:+: text
  closed : (text.foldl Place.next place).isLiteral = false

/-- A text behind `before` is blanked: each character of a literal or comment has become a space,
and one that belongs to neither, nor to the letters before a literal, is as it was. -/
def IsBlanked (before : List Char) : (text result : List Char) → Prop
  | [], [] => True
  | character :: rest, written :: result =>
    (((placeAfter before).covers character = true → written = ' ') ∧
      ((placeAfter before).covers character = false → ¬IsLetterOf before (character :: rest) →
        written = character)) ∧
      IsBlanked (before ++ [character]) rest result
  | _, _ => False

/-- The literals of a text behind `before` stand apart: before each quote that opens one there is
no word, or one that may stand before a literal. -/
def StandApart (before : List Char) : (text : List Char) → Prop
  | [] => True
  | character :: rest =>
    (isQuote character = true → placeAfter before = .code → IsStringPrefix (lastWord before)) ∧
      StandApart (before ++ [character]) rest

instance StandApart.decidable : (before text : List Char) → Decidable (StandApart before text)
  | _, [] => isTrue trivial
  | before, character :: rest =>
    have := StandApart.decidable (before ++ [character]) rest
    inferInstanceAs (Decidable (_ ∧ _))

variable {before text rest : List Char} {character mark : Char}

theorem isQuote_iff : isQuote character = true ↔ character = '"' ∨ character = '\'' := by
  unfold isQuote
  rw [Bool.or_eq_true, decide_eq_true_iff, decide_eq_true_iff]

instance (place : Place) (text : List Char) : Decidable (IsLine place text) :=
  decidable_of_iff (text.all (fun character => character ≠ '\n' ∧ character ≠ '\\') = true ∧
      (¬['"', '"', '"'] <:+: text ∧ ¬['\'', '\'', '\''] <:+: text) ∧
      (text.foldl Place.next place).isLiteral = false) <| by
    constructor
    · rintro ⟨plain, ⟨noDouble, noSingle⟩, closed⟩
      refine ⟨fun _ member => of_decide_eq_true (List.all_eq_true.mp plain _ member), ?_, closed⟩
      intro mark quote
      rcases isQuote_iff.mp quote with rfl | rfl
      exacts [noDouble, noSingle]
    · intro isLine
      exact ⟨List.all_eq_true.mpr fun _ member => decide_eq_true (isLine.plain _ member),
        ⟨isLine.untripled _ rfl, isLine.untripled _ rfl⟩, isLine.closed⟩

theorem placeAfter_concat (before : List Char) (character : Char) :
    placeAfter (before ++ [character]) = (placeAfter before).next character :=
  List.foldl_concat _ _ _ _

theorem IsLine.tail {place : Place} (isLine : IsLine place (character :: rest)) :
    IsLine (place.next character) rest where
  plain other member := isLine.plain other (List.mem_cons_of_mem _ member)
  untripled mark quote inside :=
    isLine.untripled mark quote (inside.trans (List.infix_cons (List.infix_refl rest)))
  closed := isLine.closed

theorem IsLine.tails {place : Place} {front : List Char} (isLine : IsLine place (front ++ rest)) :
    IsLine (front.foldl Place.next place) rest := by
  induction front generalizing place with
  | nil => exact isLine
  | cons first more inductionHypothesis => exact inductionHypothesis isLine.tail

/-- A literal that is open is closed on the line. -/
theorem IsLine.exists_literal (isLine : IsLine (.literal mark) text) :
    ∃ body behind, text = body ++ mark :: behind ∧ mark ∉ body := by
  induction text with
  | nil => cases isLine.closed
  | cons first rest inductionHypothesis =>
    by_cases closing : first = mark
    · exact ⟨[], rest, by rw [closing]; rfl, List.not_mem_nil⟩
    · have inside := isLine.tail
      rw [Place.next, if_neg closing] at inside
      obtain ⟨body, behind, rfl, absent⟩ := inductionHypothesis inside
      refine ⟨first :: body, behind, rfl, fun member => ?_⟩
      rcases List.mem_cons.mp member with same | later
      · exact closing same.symm
      · exact absent later

/-! ### Words and letters -/

theorem isWord_of_isStringLetter (letter : isStringLetter character = true) :
    isWord character = true := by
  have small : character.toLower ∈ ['r', 'b', 'u', 'f'] := List.contains_iff_mem.mp letter
  have alphas : ∀ small ∈ ['r', 'b', 'u', 'f'], small.isAlpha = true := List.all_eq_true.mp rfl
  have alpha : character.isAlpha = true := isAlpha_of_isAlpha_toLower (alphas _ small)
  exact isWord_of_isNameStart (isNameStart_of_isAlpha alpha)

theorem not_isStringLetter_of_isQuote (quote : isQuote character = true) :
    isStringLetter character = false := by
  rcases isQuote_iff.mp quote with rfl | rfl <;> decide

theorem not_isWord_of_isQuote (quote : isQuote character = true) : isWord character = false := by
  rcases isQuote_iff.mp quote with rfl | rfl <;> decide

/-- A reader of code stays in code behind word characters. -/
theorem next_of_isWord (word : isWord character = true) : Place.code.next character = .code := by
  have noQuote : ¬isQuote character = true := fun quote => by
    rw [not_isWord_of_isQuote quote] at word
    cases word
  rw [Place.next, if_neg noQuote, if_neg (ne_of_isWord word (by decide))]

theorem foldl_next_of_words {letters : List Char}
    (words : ∀ letter ∈ letters, isWord letter = true) :
    letters.foldl Place.next .code = .code := by
  induction letters with
  | nil => rfl
  | cons first more inductionHypothesis =>
    obtain ⟨own, others⟩ := List.forall_mem_cons.mp words
    rw [List.foldl_cons, next_of_isWord own, inductionHypothesis others]

theorem lastWord_concat (word : isWord character = true) :
    lastWord (before ++ [character]) = lastWord before ++ [character] :=
  List.rtakeWhile_concat_pos _ _ _ word

theorem lastWord_concat_of_not (noWord : isWord character = false) :
    lastWord (before ++ [character]) = [] :=
  List.rtakeWhile_concat_neg _ _ _ (by rw [noWord]; exact Bool.false_ne_true)

/-- Blanking asks only whether the character before a text belongs to a word. -/
theorem isWord_getLast?_iff (before : List Char) :
    ((before.getLast?.map isWord).getD false = true) ↔ lastWord before ≠ [] := by
  rcases List.eq_nil_or_concat' before with rfl | ⟨front, last, rfl⟩
  · exact ⟨fun never => absurd never Bool.false_ne_true,
      fun some => absurd (List.rtakeWhile_nil _) some⟩
  · rw [List.getLast?_concat, Option.map_some, Option.getD_some]
    cases word : isWord last with
    | true =>
      rw [lastWord_concat word]
      exact ⟨fun _ => List.concat_ne_nil _ _, fun _ => rfl⟩
    | false =>
      rw [lastWord_concat_of_not word]
      exact ⟨fun never => absurd never Bool.false_ne_true, fun some => absurd rfl some⟩

/-! ### What begins at a place -/

theorem closingDistance_of_plain {body behind : List Char} (absent : mark ∉ body)
    (plain : ∀ character ∈ body, character ≠ '\n' ∧ character ≠ '\\') :
    closingDistance ⟨mark, true, false⟩ (body ++ mark :: behind) = some (body.length + 1) := by
  induction body with
  | nil =>
    rw [List.nil_append, closingDistance.eq_def]
    exact if_pos rfl
  | cons first more inductionHypothesis =>
    obtain ⟨⟨noFeed, noSlash⟩, others⟩ := List.forall_mem_cons.mp plain
    have different : first ≠ mark := fun same => absent (same ▸ List.mem_cons_self)
    have later : mark ∉ more := fun member => absent (List.mem_cons_of_mem _ member)
    rw [List.cons_append, closingDistance.eq_def]
    simp only [if_neg different, decide_eq_false noSlash, decide_eq_false noFeed, Bool.and_false,
      Bool.false_eq_true, if_false, inductionHypothesis later others]
    rfl

theorem tripledLength_of_isLine {place : Place} (isLine : IsLine place text)
    (quote : isQuote mark = true) : tripledLength mark text = none := by
  have nothing : after? [mark, mark, mark] text = none := by
    refine Option.eq_none_iff_forall_ne_some.mpr fun inside found => ?_
    rw [after?_eq_some_iff] at found
    exact isLine.untripled mark quote (found ▸ (List.prefix_append _ inside).isInfix)
  unfold tripledLength
  dsimp only
  rw [nothing]

theorem quoteLength_of_ne {tripled : Bool} {quote : Quote} {first : Char}
    (different : first ≠ quote.mark) : quoteLength tripled quote (first :: rest) = none :=
  if_neg different

/-- A closed literal is measured with both its quotes. -/
theorem stringLength_literal {place : Place} {body behind : List Char}
    (isLine : IsLine place (mark :: (body ++ mark :: behind))) (quote : isQuote mark = true)
    (absent : mark ∉ body) :
    stringLength ⟨plainQuotes, true⟩ (mark :: (body ++ mark :: behind)) =
      some (body.length + 2) := by
  have own : quoteLength true ⟨mark, true, false⟩ (mark :: (body ++ mark :: behind)) =
      some (body.length + 2) := by
    have plain : ∀ character ∈ body, character ≠ '\n' ∧ character ≠ '\\' := fun character member =>
      isLine.plain character (List.mem_cons_of_mem _ (List.mem_append_left _ member))
    rw [quoteLength, if_pos rfl, if_pos rfl, tripledLength_of_isLine isLine quote,
      closingDistance_of_plain absent plain]
    rfl
  unfold stringLength plainQuotes
  rcases isQuote_iff.mp quote with rfl | rfl
  · rw [List.findSome?_cons, own]
  · rw [List.findSome?_cons, quoteLength_of_ne (by decide), List.findSome?_cons, own]

theorem stringLength_of_not_quote (begins : ∀ first ∈ text.head?, isQuote first = false) :
    stringLength ⟨plainQuotes, true⟩ text = none := by
  refine List.findSome?_eq_none_iff.mpr fun quote member => ?_
  cases text with
  | nil => rfl
  | cons first rest =>
    have noQuote := begins first rfl
    rcases List.mem_pair.mp member with rfl | rfl <;>
      exact quoteLength_of_ne fun same => by rw [same] at noQuote; cases noQuote

/-- Letters before a literal are measured with it, unless they end a word. -/
theorem literalLength_literal {place : Place} {letters body behind : List Char}
    {previous : Option Char} (noWord : ¬(previous.map isWord).getD false = true)
    (isPrefix : IsStringPrefix letters) (isLine : IsLine place (mark :: (body ++ mark :: behind)))
    (quote : isQuote mark = true) (absent : mark ∉ body) :
    literalLength ⟨plainQuotes, true⟩ previous (letters ++ mark :: (body ++ mark :: behind)) =
      some (letters.length + (body.length + 2)) := by
  have taken : (letters ++ mark :: (body ++ mark :: behind)).takeWhile isStringLetter = letters := by
    rw [List.takeWhile_append_of_pos isPrefix.2, List.takeWhile_cons_of_neg, List.append_nil]
    rw [not_isStringLetter_of_isQuote quote]
    exact Bool.false_ne_true
  have begun : ¬((previous.map isWord).getD false || decide (2 < letters.length)) = true := by
    rw [Bool.or_eq_true, decide_eq_true_iff]
    exact not_or.mpr ⟨noWord, Nat.not_lt.mpr isPrefix.1⟩
  unfold literalLength
  dsimp only
  rw [if_pos rfl, taken, if_neg begun, List.drop_left, stringLength_literal isLine quote absent]
  exact congrArg some (Nat.add_comm _ _)

/-- Where a word goes on, or no quote follows at most two letters, no literal begins. -/
theorem literalLength_eq_none {previous : Option Char}
    (nothing : ∀ letters mark behind, text = letters ++ mark :: behind → isQuote mark = true →
      IsStringPrefix letters → (previous.map isWord).getD false = true) :
    literalLength ⟨plainQuotes, true⟩ previous text = none := by
  have parts : text.takeWhile isStringLetter ++ text.dropWhile isStringLetter = text :=
    List.takeWhile_append_dropWhile
  unfold literalLength
  dsimp only
  rw [if_pos rfl, drop_length_takeWhile]
  split
  · rfl
  · rename_i begun
    rw [Bool.or_eq_true, decide_eq_true_iff, not_or] at begun
    rw [stringLength_of_not_quote]
    · rfl
    · intro mark opens
      refine Bool.eq_false_iff.mpr fun quote => begun.1 ?_
      obtain ⟨behind, after⟩ := List.head?_eq_some_iff.mp opens
      refine nothing (text.takeWhile isStringLetter) mark behind ?_ quote
        ⟨Nat.not_lt.mp begun.2, fun letter => List.mem_takeWhile_imp⟩
      rw [← after, parts]

theorem literalLength_sign (previous : Option Char) :
    literalLength ⟨plainQuotes, true⟩ previous ('#' :: rest) = none := by
  refine literalLength_eq_none fun letters mark behind split quote isPrefix => ?_
  cases letters with
  | nil =>
    obtain ⟨rfl, -⟩ := List.cons.inj split
    cases quote
  | cons first more =>
    obtain ⟨rfl, -⟩ := List.cons.inj split
    cases isPrefix.2 _ List.mem_cons_self

theorem commentLength_sign {place : Place} (isLine : IsLine place ('#' :: rest)) :
    commentLength Language.numberSign ('#' :: rest) = some (rest.length + 1) := by
  have whole : ('#' :: rest).takeWhile (· != '\n') = '#' :: rest :=
    List.takeWhile_eq_self_iff.mpr fun character member =>
      bne_iff_ne.mpr (isLine.plain character member).1
  unfold commentLength Language.numberSign
  dsimp only
  rw [whole]
  rfl

theorem commentLength_of_ne (different : character ≠ '#') :
    commentLength Language.numberSign (character :: rest) = none := by
  unfold commentLength Language.numberSign
  dsimp only
  rw [after?, if_neg different.symm]
  rfl

theorem length_python (previous : Option Char) (text : List Char) :
    length (marksOf "python") previous text =
      ((literalLength ⟨plainQuotes, true⟩ previous text).or
        (commentLength Language.numberSign text)).getD 0 := by
  rw [marksOf_python]
  rfl

/-! ### The two readings in step -/

/-- Behind `before`, where blanking counts no more characters, a reader is in code, and a word that
has begun does not go on to be one before a literal. -/
structure IsBetween (before text : List Char) : Prop where
  place : placeAfter before = .code
  apart : ∀ letters mark behind, text = letters ++ mark :: behind → isQuote mark = true →
    IsStringPrefix (lastWord before ++ letters) → lastWord before = []

/-- What blanking counts behind `before`, next to what a reader is in. -/
inductive Stage (before : List Char) : (inside : Nat) → (text : List Char) → Prop where
  | between {text : List Char} (isBetween : IsBetween before text) : Stage before 0 text
  | letters {letters body behind : List Char} {mark : Char} {inside : Nat} {text : List Char}
      (place : placeAfter before = .code) (isPrefix : IsStringPrefix (lastWord before ++ letters))
      (quote : isQuote mark = true) (absent : mark ∉ body)
      (count : inside = letters.length + (body.length + 2))
      (split : text = letters ++ mark :: (body ++ mark :: behind)) : Stage before inside text
  | literal {body behind : List Char} {mark : Char} {inside : Nat} {text : List Char}
      (place : placeAfter before = .literal mark) (quote : isQuote mark = true)
      (absent : mark ∉ body) (count : inside = body.length + 1)
      (split : text = body ++ mark :: behind) : Stage before inside text
  | sign {rest : List Char} (place : placeAfter before = .code) :
      Stage before (rest.length + 1) ('#' :: rest)
  | comment {text : List Char} (place : placeAfter before = .comment) :
      Stage before text.length text

/-- A literal that begins between words is measured up to its closing quote. -/
theorem exists_length_literal {letters behind : List Char} (isLine : IsLine .code text)
    (split : text = letters ++ mark :: behind) (quote : isQuote mark = true)
    (isPrefix : IsStringPrefix letters) (noWord : lastWord before = []) :
    ∃ body after, behind = body ++ mark :: after ∧ mark ∉ body ∧
      length (marksOf "python") before.getLast? text = letters.length + (body.length + 2) := by
  subst split
  have opening := isLine.tails
  rw [foldl_next_of_words fun letter member =>
    isWord_of_isStringLetter (isPrefix.2 letter member)] at opening
  have inside := opening.tail
  rw [Place.next, if_pos quote] at inside
  obtain ⟨body, after, rfl, absent⟩ := inside.exists_literal
  have unbegun : ¬(before.getLast?.map isWord).getD false = true := fun word =>
    (isWord_getLast?_iff before).mp word noWord
  refine ⟨body, after, rfl, absent, ?_⟩
  rw [length_python, literalLength_literal unbegun isPrefix opening quote absent]
  rfl

/-- What begins between words and literals is measured as what a reader takes it for. -/
theorem IsBetween.stage (isBetween : IsBetween before text) (isLine : IsLine .code text) :
    Stage before (length (marksOf "python") before.getLast? text) text := by
  by_cases opens : ∃ letters mark behind, text = letters ++ mark :: behind ∧
      isQuote mark = true ∧ IsStringPrefix letters ∧ lastWord before = []
  · obtain ⟨letters, mark, behind, split, quote, isPrefix, noWord⟩ := opens
    obtain ⟨body, after, rfl, absent, measured⟩ :=
      exists_length_literal isLine split quote isPrefix noWord
    have own : IsStringPrefix (lastWord before ++ letters) := by
      rwa [noWord, List.nil_append]
    exact .letters isBetween.place own quote absent measured split
  · have noLiteral : literalLength ⟨plainQuotes, true⟩ before.getLast? text = none :=
      literalLength_eq_none fun letters mark behind split quote isPrefix =>
        (isWord_getLast?_iff before).mpr fun noWord =>
          opens ⟨letters, mark, behind, split, quote, isPrefix, noWord⟩
    rw [length_python, noLiteral]
    cases text with
    | nil => exact .between isBetween
    | cons character rest =>
      by_cases sign : character = '#'
      · subst sign
        rw [commentLength_sign isLine]
        exact .sign isBetween.place
      · rw [commentLength_of_ne sign]
        exact .between isBetween

/-- Where nothing begins and no quote stands, a reader goes on in code. -/
theorem IsBetween.step (isBetween : IsBetween before (character :: rest))
    (isLine : IsLine .code (character :: rest))
    (nothing : length (marksOf "python") before.getLast? (character :: rest) = 0)
    (noQuote : isQuote character = false) :
    (placeAfter before).covers character = false ∧ IsBetween (before ++ [character]) rest := by
  have noSign : character ≠ '#' := by
    rintro rfl
    rw [length_python, literalLength_sign, commentLength_sign isLine] at nothing
    cases nothing
  refine ⟨?_, ?_, fun letters mark behind split quote isPrefix => ?_⟩
  · rw [isBetween.place, Place.covers, noQuote, decide_eq_false noSign]
    rfl
  · rw [placeAfter_concat, isBetween.place, Place.next, noQuote, if_neg Bool.false_ne_true,
      if_neg noSign]
  · cases word : isWord character with
    | false => exact lastWord_concat_of_not word
    | true =>
      -- the literal would have begun with this character or before it
      rw [lastWord_concat word, List.append_assoc] at isPrefix
      have whole : character :: rest = (character :: letters) ++ mark :: behind := by
        rw [split]
        rfl
      have noWord := isBetween.apart _ mark behind whole quote isPrefix
      rw [noWord] at isPrefix
      obtain ⟨body, after, _, _, measured⟩ :=
        exists_length_literal isLine whole quote isPrefix noWord
      rw [nothing] at measured
      cases measured

/-- A quote at which nothing begins stands behind a word that is none before a literal. -/
theorem IsBetween.not_isStringPrefix (isBetween : IsBetween before (mark :: rest))
    (isLine : IsLine .code (mark :: rest))
    (nothing : length (marksOf "python") before.getLast? (mark :: rest) = 0)
    (quote : isQuote mark = true) : ¬IsStringPrefix (lastWord before) := by
  intro isPrefix
  have noWord := isBetween.apart [] mark rest rfl quote (by rwa [List.append_nil])
  obtain ⟨body, after, _, _, measured⟩ := exists_length_literal isLine
    (List.nil_append _).symm quote (by rwa [noWord] at isPrefix) noWord
  rw [nothing, List.length_nil, Nat.zero_add] at measured
  cases measured

/-- A character that is blanked belongs to a literal or comment or to the letters before a literal,
and a quote that opens a literal there has none but such letters before it. -/
structure IsTaken (before : List Char) (character : Char) (rest : List Char) : Prop where
  read : (placeAfter before).covers character = true ∨ IsLetterOf before (character :: rest)
  apart : isQuote character = true → placeAfter before = .code → IsStringPrefix (lastWord before)

theorem isTaken_of_inside (covered : (placeAfter before).covers character = true)
    (notCode : placeAfter before ≠ .code) : IsTaken before character rest where
  read := Or.inl covered
  apart _ code := absurd code notCode

/-- From the letters before a literal on, or from its first quote if it has none. -/
theorem Stage.step_letters {letters body behind : List Char} (place : placeAfter before = .code)
    (isPrefix : IsStringPrefix (lastWord before ++ letters)) (quote : isQuote mark = true)
    (absent : mark ∉ body)
    (split : character :: rest = letters ++ mark :: (body ++ mark :: behind)) :
    IsTaken before character rest ∧
      Stage (before ++ [character]) (letters.length + (body.length + 1)) rest := by
  cases letters with
  | nil =>
    obtain ⟨rfl, rfl⟩ := List.cons.inj split
    rw [List.append_nil] at isPrefix
    have covered : (placeAfter before).covers character = true := by
      rw [place, Place.covers, quote, Bool.true_or]
    have opened : placeAfter (before ++ [character]) = .literal character := by
      rw [placeAfter_concat, place, Place.next, if_pos quote]
    exact ⟨⟨Or.inl covered, fun _ _ => isPrefix⟩,
      .literal opened quote absent (Nat.zero_add _) rfl⟩
  | cons first more =>
    obtain ⟨rfl, rfl⟩ := List.cons.inj split
    have letter : isStringLetter character = true :=
      isPrefix.2 character (List.mem_append_right _ List.mem_cons_self)
    have word := isWord_of_isStringLetter letter
    refine ⟨⟨Or.inr ⟨character :: more, mark, _, rfl, List.cons_ne_nil _ _, quote, isPrefix⟩,
      fun itself => ?_⟩, .letters ?_ ?_ quote absent ?_ rfl⟩
    · rw [not_isStringLetter_of_isQuote itself] at letter
      cases letter
    · rw [placeAfter_concat, place, next_of_isWord word]
    · rwa [lastWord_concat word, List.append_assoc]
    · rw [List.length_cons]
      omega

/-- From a place in a literal on. -/
theorem Stage.step_literal {body behind : List Char} (place : placeAfter before = .literal mark)
    (quote : isQuote mark = true) (absent : mark ∉ body)
    (split : character :: rest = body ++ mark :: behind) :
    Stage (before ++ [character]) body.length rest := by
  cases body with
  | nil =>
    obtain ⟨rfl, rfl⟩ := List.cons.inj split
    refine .between ⟨?_, fun _ _ _ _ _ _ => lastWord_concat_of_not (not_isWord_of_isQuote quote)⟩
    rw [placeAfter_concat, place, Place.next, if_pos rfl]
  | cons first more =>
    obtain ⟨rfl, rfl⟩ := List.cons.inj split
    have different : character ≠ mark := fun same => absent (same ▸ List.mem_cons_self)
    refine .literal ?_ quote (fun member => absent (List.mem_cons_of_mem _ member)) rfl rfl
    rw [placeAfter_concat, place, Place.next, if_neg different]

/-- Where blanking counts on, it takes one character, and the next stage is behind it. -/
theorem Stage.step {inside : Nat} (stage : Stage before (inside + 1) (character :: rest)) :
    IsTaken before character rest ∧ Stage (before ++ [character]) inside rest := by
  generalize whole : character :: rest = text at stage
  generalize counted : inside + 1 = count at stage
  cases stage with
  | between => cases counted
  | @letters letters body behind mark _ _ place isPrefix quote absent count split =>
    obtain rfl : inside = letters.length + (body.length + 1) := by omega
    exact step_letters place isPrefix quote absent (whole.trans split)
  | @literal body behind mark _ _ place quote absent count split =>
    obtain rfl : inside = body.length := by omega
    refine ⟨isTaken_of_inside (by rw [place]; rfl) ?_,
      step_literal place quote absent (whole.trans split)⟩
    rw [place]
    exact Place.noConfusion
  | sign place =>
    obtain ⟨rfl, rfl⟩ := List.cons.inj whole
    cases counted
    refine ⟨⟨Or.inl (by rw [place]; rfl), fun quote => absurd quote (by decide)⟩, .comment ?_⟩
    rw [placeAfter_concat, place]
    rfl
  | comment place =>
    subst whole
    cases counted
    refine ⟨isTaken_of_inside (by rw [place]; rfl) ?_, .comment ?_⟩
    · rw [place]
      exact Place.noConfusion
    · rw [placeAfter_concat, place]
      rfl

theorem Stage.isBetween (stage : Stage before 0 (character :: rest)) :
    IsBetween before (character :: rest) := by
  generalize whole : character :: rest = text at stage
  generalize counted : 0 = count at stage
  cases stage with
  | between isBetween => exact isBetween
  | letters _ _ _ _ count => omega
  | literal _ _ _ count => omega
  | sign => cases counted
  | comment =>
    subst whole
    cases counted

/-! ### Blanking a line -/

theorem blankFrom_measured {marks : Marks} {previous : Option Char} {inside : Nat}
    (measured : length marks previous (character :: rest) = inside + 1) :
    blankFrom marks previous 0 (character :: rest) =
      blankFrom marks previous (inside + 1) (character :: rest) := by
  simp only [blankFrom, measured]

/-- One character that blanking counts to a string or comment. -/
theorem Stage.isBlanked_iff {inside : Nat} {previous : Option Char}
    (stage : Stage before (inside + 1) (character :: rest)) (noFeed : character ≠ '\n')
    (others : IsBlanked (before ++ [character]) rest
        (blankFrom (marksOf "python") (some character) inside rest) ↔
      StandApart (before ++ [character]) rest) :
    IsBlanked before (character :: rest)
        (blankFrom (marksOf "python") previous (inside + 1) (character :: rest)) ↔
      StandApart before (character :: rest) := by
  obtain ⟨taken, -⟩ := stage.step
  rw [blankFrom, blank, if_neg noFeed, IsBlanked, StandApart, others]
  refine and_congr_left' ⟨fun _ => taken.apart,
    fun _ => ⟨fun _ => rfl, fun uncovered noLetter => ?_⟩⟩
  rcases taken.read with covered | letter
  · rw [uncovered] at covered
    cases covered
  · exact absurd letter noLetter

/-- One character at which no string and no comment begins. -/
theorem IsBetween.isBlanked_iff (isBetween : IsBetween before (character :: rest))
    (isLine : IsLine .code (character :: rest))
    (nothing : length (marksOf "python") before.getLast? (character :: rest) = 0)
    (others : isQuote character = false → (IsBlanked (before ++ [character]) rest
        (blankFrom (marksOf "python") (some character) 0 rest) ↔
      StandApart (before ++ [character]) rest)) :
    IsBlanked before (character :: rest)
        (blankFrom (marksOf "python") before.getLast? 0 (character :: rest)) ↔
      StandApart before (character :: rest) := by
  rw [blankFrom, nothing, IsBlanked, StandApart]
  cases quote : isQuote character with
  | false =>
    rw [others quote, (isBetween.step isLine nothing quote).1]
    exact and_congr_left' ⟨fun _ never => absurd never Bool.false_ne_true,
      fun _ => ⟨fun never => absurd never Bool.false_ne_true, fun _ _ => rfl⟩⟩
  | true =>
    -- the quote is left, though it opens a literal
    have covered : (placeAfter before).covers character = true := by
      rw [isBetween.place, Place.covers, quote, Bool.true_or]
    constructor
    · rintro ⟨⟨blanked, -⟩, -⟩
      rw [blanked covered] at quote
      cases quote
    · rintro ⟨apart, -⟩
      exact absurd (apart rfl isBetween.place)
        (isBetween.not_isStringPrefix isLine nothing quote)

/-- From any stage on, a text is blanked just as far as its literals stand apart. -/
theorem Stage.isBlanked_blankFrom_iff {inside : Nat} (stage : Stage before inside text)
    (isLine : IsLine (placeAfter before) text) :
    IsBlanked before text (blankFrom (marksOf "python") before.getLast? inside text) ↔
      StandApart before text := by
  induction text generalizing before inside with
  | nil => rfl
  | cons character rest inductionHypothesis =>
    have tail : IsLine (placeAfter (before ++ [character])) rest := by
      rw [placeAfter_concat]
      exact isLine.tail
    have noFeed := (isLine.plain character List.mem_cons_self).1
    have others {inside : Nat} (next : Stage (before ++ [character]) inside rest) :
        IsBlanked (before ++ [character]) rest
            (blankFrom (marksOf "python") (some character) inside rest) ↔
          StandApart (before ++ [character]) rest := by
      have reading := inductionHypothesis next tail
      rwa [List.getLast?_concat] at reading
    cases inside with
    | succ inside => exact stage.isBlanked_iff noFeed (others stage.step.2)
    | zero =>
      have isBetween := stage.isBetween
      rw [isBetween.place] at isLine
      have measuredStage := isBetween.stage isLine
      cases measured : length (marksOf "python") before.getLast? (character :: rest) with
      | zero =>
        exact isBetween.isBlanked_iff isLine measured fun noQuote =>
          others (.between (isBetween.step isLine measured noQuote).2)
      | succ inside =>
        rw [measured] at measuredStage
        rw [blankFrom_measured measured]
        exact measuredStage.isBlanked_iff noFeed (others measuredStage.step.2)

/-- In a line of Python without line feeds, backslashes and three same quotes, whose literals are
all closed, every character of a literal or comment becomes a space and none outside them and the
letters before literals changes, if and only if no literal directly follows a word that is not of
such letters. -/
theorem literals_and_comments_are_blanked {line : List Char} (isLine : IsLine .code line) :
    IsBlanked [] line (sanitize line "python") ↔ StandApart [] line :=
  Stage.isBlanked_blankFrom_iff (.between ⟨rfl, fun _ _ _ _ _ _ => rfl⟩) isLine

theorem literals_and_comments_are_blanked_between_words :
    IsLine .code "f(rb'it', \"x\"'#', '')  # it's".toList ∧
      StandApart [] "f(rb'it', \"x\"'#', '')  # it's".toList ∧
      IsBlanked [] "f(rb'it', \"x\"'#', '')  # it's".toList
        (sanitize "f(rb'it', \"x\"'#', '')  # it's".toList "python") :=
  have isLine : IsLine .code "f(rb'it', \"x\"'#', '')  # it's".toList := by decide +kernel
  have apart : StandApart [] "f(rb'it', \"x\"'#', '')  # it's".toList := by decide +kernel
  ⟨isLine, apart, (literals_and_comments_are_blanked isLine).mpr apart⟩

/-- A literal that directly follows a word is not blanked. -/
theorem literal_behind_word_is_left :
    IsLine .code "return\"a\"".toList ∧
      ¬IsBlanked [] "return\"a\"".toList (sanitize "return\"a\"".toList "python") := by
  have left : sanitize "return\"a\"".toList "python" = "return\"a\"".toList := by decide +kernel
  refine ⟨by decide +kernel, fun blanked => ?_⟩
  rw [left] at blanked
  -- the seventh character is the quote
  obtain ⟨-, -, -, -, -, -, ⟨space, -⟩, -⟩ := blanked
  exact absurd (space (by decide +kernel)) (by decide)

end LlmTxt.Noise

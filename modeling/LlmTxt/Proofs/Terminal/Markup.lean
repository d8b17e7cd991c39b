/-
This file says which texts come out of markup as they went in. A text without tags is one plain
piece: a bracket that begins no tag stays, and so does a backslash, unless it stands right before a
bracket. A name of a style around such a text is dropped, and the text between the tags stays.
-/

import LlmTxt.Proofs.Text.Trim
import LlmTxt.Terminal.Markup

namespace LlmTxt.Terminal.Markup

open Text

/-- Whether no bracket of a text begins a tag or has a backslash before it. -/
def HoldsNoTag (text : List Char) : Prop :=
  ∀ front rest, text = front ++ '[' :: rest →
    tag? rest = none ∧ front.getLast? ≠ some '\\'

/-! ### Plain texts in pieces -/

theorem HoldsNoTag.of_append {front back : List Char} (noTag : HoldsNoTag (front ++ back)) :
    HoldsNoTag back := by
  rintro inner rest rfl
  obtain ⟨plain, last⟩ := noTag (front ++ inner) rest (by rw [List.append_assoc])
  refine ⟨plain, fun ends => last ?_⟩
  rw [List.getLast?_append, ends]
  rfl

/-- A bracket that begins no tag begins none before another bracket. -/
theorem tag?_append_bracket {text : List Char} (plain : tag? text = none) (behind : List Char) :
    tag? (text ++ '[' :: behind) = none := by
  have content : (text ++ '[' :: behind).takeWhile (fun character =>
      character != '[' && character != ']') =
        text.takeWhile fun character => character != '[' && character != ']' := by
    rw [List.takeWhile_append]
    split
    · rename_i length
      rw [(List.takeWhile_prefix _).eq_of_length length, List.takeWhile_cons_of_neg (by decide),
        List.append_nil]
    · rfl
  have length := (List.takeWhile_prefix (l := text)
    fun character => character != '[' && character != ']').length_le
  unfold tag? at plain ⊢
  dsimp only at plain ⊢
  rw [content, List.drop_append_of_le_length length]
  cases behindContent : text.drop (text.takeWhile fun character =>
      character != '[' && character != ']').length with
  | nil => rfl
  | cons first rest =>
    rw [behindContent] at plain
    rw [List.cons_append]
    by_cases closes : first = ']'
    · subst closes
      by_cases begins : (text.takeWhile fun character =>
          character != '[' && character != ']').head?.any beginsTag = true
      · exact absurd (plain.symm.trans (if_pos begins)) nofun
      · exact if_neg begins
    · simp [closes]

/-! ### Backslashes -/

theorem exists_backslashes (text : List Char) :
    ∃ count tail, text = List.replicate count '\\' ++ tail ∧ tail.head? ≠ some '\\' := by
  induction text with
  | nil => exact ⟨0, [], rfl, nofun⟩
  | cons first rest inductionHypothesis =>
    by_cases escapes : first = '\\'
    · obtain ⟨count, tail, rfl, head⟩ := inductionHypothesis
      exact ⟨count + 1, tail, by rw [escapes]; rfl, head⟩
    · exact ⟨0, first :: rest, rfl, by simpa using escapes⟩

theorem takeWhile_backslashes {count : Nat} {tail : List Char} (head : tail.head? ≠ some '\\') :
    (List.replicate count '\\' ++ tail).takeWhile (· == '\\') = List.replicate count '\\' := by
  rw [List.takeWhile_append_of_pos (by simp)]
  cases tail with
  | nil => rw [List.takeWhile_nil, List.append_nil]
  | cons first rest =>
    rw [List.takeWhile_cons_of_neg (by simpa using head), List.append_nil]

theorem drop_backslashes (count : Nat) (tail : List Char) :
    (List.replicate count '\\' ++ tail).drop (List.replicate count '\\').length = tail :=
  List.drop_left

section Steps

variable (place : Nat) (run : List Char) (fuel count : Nat)

theorem pieces_backslashes : pieces place run (fuel + 1) (List.replicate count '\\') =
    [.plain (run.reverse ++ List.replicate count '\\')] := by
  have all : (List.replicate count '\\').takeWhile (· == '\\') = List.replicate count '\\' :=
    List.takeWhile_replicate_eq_filter.trans (by simp)
  rw [pieces]
  dsimp only
  rw [all, List.drop_length]
  simp

theorem pieces_nil : pieces place run (fuel + 1) [] = [.plain run.reverse] := by
  rw [← List.replicate_zero, pieces_backslashes, List.replicate_zero, List.append_nil]

/-- A character that is no bracket is plain, with the backslashes before it. -/
theorem pieces_character {character : Char} (noEscape : character ≠ '\\')
    (noBracket : character ≠ '[') (rest : List Char) :
    pieces place run (fuel + 1) (List.replicate count '\\' ++ character :: rest) =
      pieces (place + count + 1) (character :: List.replicate count '\\' ++ run) fuel rest := by
  rw [pieces]
  dsimp only
  rw [takeWhile_backslashes (by simpa using noEscape), drop_backslashes, List.length_replicate]
  split
  · rename_i impossible
    cases impossible
  · rename_i same
    cases same
    exact absurd rfl noBracket
  · rename_i same
    cases same
    rfl

/-- A bracket that begins no tag is plain. -/
theorem pieces_bracket {rest : List Char} (noTag : tag? rest = none) :
    pieces place run (fuel + 1) ('[' :: rest) = pieces (place + 1) ('[' :: run) fuel rest := by
  rw [pieces]
  dsimp only
  rw [List.takeWhile_cons_of_neg (by decide)]
  rw [List.length_nil, List.drop_zero]
  split
  · rename_i impossible
    cases impossible
  · rename_i same
    cases same
    rw [noTag]
    rfl
  · rename_i other same
    cases same
    exact absurd rfl other

/-- A tag ends the plain text before it. -/
theorem pieces_tag {content rest : List Char}
    (tag : tag? (content ++ ']' :: rest) = some (content, rest)) :
    pieces place run (fuel + 1) ('[' :: content ++ ']' :: rest) =
      .plain run.reverse :: .plain [] :: pieceOfTag content place ::
        pieces (place + content.length + 2) [] fuel rest := by
  rw [List.cons_append, pieces]
  dsimp only
  rw [List.takeWhile_cons_of_neg (by decide)]
  rw [List.length_nil, List.drop_zero]
  split
  · rename_i impossible
    cases impossible
  · rename_i same
    cases same
    rw [tag]
    rfl
  · rename_i other same
    cases same
    exact absurd rfl other

end Steps

/-! ### Plain text -/

/-- What may stand behind a plain text: nothing, or a bracket, and then no backslash stands at the
end of the text. -/
def Stops (plain : List Char) : List Char → Prop
  | [] => True
  | first :: _ => first = '[' ∧ plain.getLast? ≠ some '\\'

section Stopping

variable {back : List Char}

/-- Where a text stops, its last characters do as well. -/
theorem Stops.of_append {front plain : List Char} (stops : Stops (front ++ plain) back) :
    Stops plain back := by
  cases back with
  | nil => trivial
  | cons bracket more =>
    refine ⟨stops.1, fun ends => stops.2 ?_⟩
    rw [List.getLast?_append, ends]
    rfl

/-- A bracket that begins no tag begins none with what stands behind the text. -/
theorem tag?_append_of_stops {text plain : List Char} (noTag : tag? text = none)
    (stops : Stops plain back) : tag? (text ++ back) = none := by
  cases back with
  | nil => rwa [List.append_nil]
  | cons bracket more =>
    obtain ⟨rfl, -⟩ := stops
    exact tag?_append_bracket noTag more

/-- Backslashes are gathered up to where they stop. -/
theorem pieces_backslashes_append {count : Nat} (stops : Stops (List.replicate count '\\') back)
    (place : Nat) (run : List Char) {fuel : Nat} (enough : back.length < fuel + 1) :
    ∃ fuel', back.length < fuel' ∧
      pieces place run (fuel + 1) (List.replicate count '\\' ++ back) =
        pieces (place + count) ((List.replicate count '\\').reverse ++ run) fuel' back := by
  cases back with
  | nil =>
    refine ⟨fuel + 1, Nat.succ_pos _, ?_⟩
    rw [List.append_nil, pieces_backslashes, pieces_nil, List.reverse_append,
      List.reverse_reverse]
  | cons bracket more =>
    obtain ⟨rfl, ends⟩ := stops
    cases count with
    | zero => exact ⟨fuel + 1, enough, rfl⟩
    | succ count => exact absurd (by simp [List.getLast?_replicate]) ends

/-- Plain text is gathered up to where it stops. -/
theorem pieces_append {plain : List Char} (noTag : HoldsNoTag plain) (stops : Stops plain back)
    (place : Nat) (run : List Char) {fuel : Nat} (enough : (plain ++ back).length < fuel) :
    ∃ fuel', back.length < fuel' ∧ pieces place run fuel (plain ++ back) =
      pieces (place + plain.length) (plain.reverse ++ run) fuel' back := by
  induction fuel generalizing plain place run with
  | zero => exact absurd enough (Nat.not_lt_zero _)
  | succ fuel inductionHypothesis =>
    obtain ⟨count, tail, rfl, head⟩ := exists_backslashes plain
    rw [List.append_assoc, List.length_append, List.length_replicate] at enough
    cases tail with
    | nil =>
      rw [List.append_nil] at stops ⊢
      rw [List.length_replicate]
      exact pieces_backslashes_append stops place run
        (Nat.lt_of_le_of_lt (Nat.le_add_left _ count) enough)
    | cons first rest =>
      have noEscape : first ≠ '\\' := by simpa using head
      rw [List.append_cons] at noTag stops
      rw [List.cons_append, List.length_cons] at enough
      -- The backslashes and the character behind them are taken in one step.
      by_cases bracket : first = '['
      · subst bracket
        rw [← List.append_cons] at noTag
        obtain ⟨plain, unescaped⟩ := noTag _ rest rfl
        have none : count = 0 := by
          by_contra some
          exact unescaped (by simp [List.getLast?_replicate, some])
        subst none
        have whole : HoldsNoTag (['['] ++ rest) := noTag
        obtain ⟨left, room, taken⟩ := inductionHypothesis whole.of_append stops.of_append
          (place + 1) ('[' :: run) (by omega)
        refine ⟨left, room, ?_⟩
        rw [List.replicate_zero, List.nil_append, List.cons_append,
          pieces_bracket _ _ _ (tag?_append_of_stops plain stops), taken, List.length_cons,
          List.reverse_cons, List.append_assoc, List.singleton_append, Nat.add_right_comm,
          ← Nat.add_assoc]
      · obtain ⟨left, room, taken⟩ := inductionHypothesis noTag.of_append stops.of_append
          (place + count + 1) (first :: List.replicate count '\\' ++ run) (by omega)
        refine ⟨left, room, ?_⟩
        rw [List.append_assoc, List.cons_append, pieces_character _ _ _ _ noEscape bracket, taken]
        congr 1
        · rw [List.length_append, List.length_cons, List.length_replicate]
          omega
        · simp

end Stopping

/-- A tag behind a plain text. -/
theorem exists_pieces_tag {plain content rest : List Char} (noTag : HoldsNoTag plain)
    (ends : plain.getLast? ≠ some '\\')
    (tag : tag? (content ++ ']' :: rest) = some (content, rest)) (place : Nat) {fuel : Nat}
    (enough : (plain ++ ('[' :: content ++ ']' :: rest)).length < fuel) :
    ∃ here behind fuel', rest.length < fuel' ∧
      pieces place [] fuel (plain ++ ('[' :: content ++ ']' :: rest)) =
        .plain plain :: .plain [] :: pieceOfTag content here :: pieces behind [] fuel' rest := by
  have stops : Stops plain ('[' :: content ++ ']' :: rest) := ⟨rfl, ends⟩
  obtain ⟨left, room, gathered⟩ := pieces_append noTag stops place [] enough
  obtain ⟨fuel', rfl⟩ : ∃ fuel', left = fuel' + 1 := ⟨left - 1, by omega⟩
  refine ⟨place + plain.length, place + plain.length + content.length + 2, fuel', ?_, ?_⟩
  · rw [List.length_append, List.length_cons, List.length_cons] at room
    omega
  · rw [gathered, pieces_tag _ _ _ tag, List.append_nil, List.reverse_reverse]

theorem textOf_plain (console : Console) (begun : List Tag) (text : List Char)
    (rest : List MarkupPiece) :
    textOf console begun (.plain text :: rest) =
      (textOf console begun rest).map fun (behind, tags) =>
        (Shortcode.replace text ++ behind, tags) := by
  rw [textOf]
  cases textOf console begun rest <;> rfl

/-! ### Texts that are shown -/

/-- Whether markup leaves a text as it is: it holds no tag, and no name of an emoji. -/
structure IsPlain (text : List Char) : Prop where
  noTag : HoldsNoTag text
  noCode : Shortcode.replace text = text

/-- What the tags of a text leave of it, wherever it stands and on whatever console: some text, and no
tag that says more than a name. -/
def Shows (text shown : List Char) : Prop :=
  ∀ console place fuel, text.length < fuel → ∃ tags,
    textOf console [] (pieces place [] fuel text) = .ok (shown, tags) ∧ ∀ tag ∈ tags, tag.said = none

/-- A plain text shows itself. -/
theorem IsPlain.shows {text : List Char} (plain : IsPlain text) : Shows text text := by
  intro console place fuel enough
  have stops : Stops text [] := trivial
  obtain ⟨left, room, gathered⟩ :=
    pieces_append plain.noTag stops place [] (by rwa [List.append_nil])
  obtain ⟨fuel', rfl⟩ : ∃ fuel', left = fuel' + 1 := ⟨left - 1, by omega⟩
  rw [List.append_nil, List.append_nil, pieces_nil, List.reverse_reverse] at gathered
  refine ⟨[], ?_, nofun⟩
  rw [gathered, textOf_plain, plain.noCode]
  simp [textOf, Except.map]

/-- Whether a name is a style of its own, written as it is normally. -/
structure IsStyle (name : List Char) : Prop where
  letter : ∃ first rest, name = first :: rest ∧ 'a' ≤ first ∧ first ≤ 'z'
  simple : ∀ character ∈ name, character ≠ '[' ∧ character ≠ ']' ∧ character ≠ '='
  bare : trim name = name
  normal : Style.normalName name = .ok name

theorem tag?_append {content : List Char} (begins : content.head?.any beginsTag = true)
    (simple : ∀ character ∈ content, character ≠ '[' ∧ character ≠ ']') (rest : List Char) :
    tag? (content ++ ']' :: rest) = some (content, rest) := by
  have whole : (content ++ ']' :: rest).takeWhile (fun character =>
      character != '[' && character != ']') = content := by
    rw [List.takeWhile_append_of_pos fun character member => by simp [simple character member],
      List.takeWhile_cons_of_neg (by decide), List.append_nil]
  unfold tag?
  dsimp only
  rw [whole, List.drop_left]
  exact if_pos begins

theorem ofContent_of_simple {content : List Char}
    (simple : ∀ character ∈ content, character ≠ '=') :
    Tag.ofContent content = ⟨content, none⟩ := by
  have whole : content.takeWhile (· != '=') = content :=
    List.takeWhile_eq_self_iff.mpr fun character member => by simp [simple character member]
  unfold Tag.ofContent
  dsimp only
  rw [whole, List.drop_length]
  rfl

section Slash

variable {name : List Char}
  (simple : ∀ character ∈ name, character ≠ '[' ∧ character ≠ ']' ∧ character ≠ '=')

include simple

/-- A slash makes any name a tag that ends another. -/
theorem tag?_slash (rest : List Char) :
    tag? ('/' :: name ++ ']' :: rest) = some ('/' :: name, rest) := by
  refine tag?_append (by simp [beginsTag]) (List.forall_mem_cons.mpr ⟨by decide, ?_⟩) rest
  exact fun character member => ⟨(simple character member).1, (simple character member).2.1⟩

theorem pieceOfTag_slash (place : Nat) :
    pieceOfTag ('/' :: name) place = .closing ⟨'/' :: name, none⟩ place := by
  have content : Tag.ofContent ('/' :: name) = ⟨'/' :: name, none⟩ :=
    ofContent_of_simple (List.forall_mem_cons.mpr
      ⟨by decide, fun character member => (simple character member).2.2⟩)
  unfold pieceOfTag
  rw [content]
  exact if_pos rfl

end Slash

namespace IsStyle

variable {name : List Char} (style : IsStyle name)

include style

theorem tag?_opening (rest : List Char) : tag? (name ++ ']' :: rest) = some (name, rest) := by
  obtain ⟨first, others, rfl, low, high⟩ := style.letter
  refine tag?_append ?_ (fun character member => ?_) rest
  · simp [beginsTag, low, high]
  · exact ⟨(style.simple character member).1, (style.simple character member).2.1⟩

theorem pieceOfTag_opening (place : Nat) : pieceOfTag name place = .opening ⟨name, none⟩ := by
  have simple := ofContent_of_simple fun character member => (style.simple character member).2.2
  obtain ⟨first, others, rfl, low, -⟩ := style.letter
  unfold pieceOfTag
  rw [simple]
  refine if_neg fun slash => ?_
  cases slash
  exact absurd low (by decide)

theorem normal_tag : (⟨name, none⟩ : Tag).normal = .ok ⟨name, none⟩ := by
  rw [Tag.normal, style.normal]
  rfl

/-- A style that is open is ended by the tag of its name. -/
theorem ended_closing (place : Nat) :
    ended [⟨name, none⟩] ⟨'/' :: name, none⟩ place = .ok ⟨name, none⟩ := by
  obtain ⟨first, others, rfl, -, -⟩ := style.letter
  unfold ended
  simp only [List.tail_cons, style.bare, style.normal_tag]
  simp [bind, Except.bind]

/-- What a style encloses is shown, and the style is closed again. -/
theorem textOf_styled (console : Console) (inner : List Char) (place : Nat)
    (rest : List MarkupPiece) :
    textOf console [] (.opening ⟨name, none⟩ :: .plain inner :: .plain [] ::
      .closing ⟨'/' :: name, none⟩ place :: rest) =
    (textOf console [] rest).map fun (behind, tags) =>
      (Shortcode.replace inner ++ behind, ⟨name, none⟩ :: tags) := by
  have noHandler : (⟨name, none⟩ : Tag).handlerFailure? console = none := by
    simp [Tag.handlerFailure?]
  have closed : textOf console [⟨name, none⟩] (.closing ⟨'/' :: name, none⟩ place :: rest) =
      textOf console [] rest := by
    rw [textOf, style.ended_closing place]
    simp [bind, Except.bind, noHandler]
  rw [textOf, style.normal_tag]
  dsimp only [bind, Except.bind]
  rw [textOf_plain, textOf_plain, closed]
  cases textOf console [] rest <;> rfl

end IsStyle

/-- A text with a plain text in some style shows both texts. -/
theorem shows_styled {before name inner rest shown : List Char} (style : IsStyle name)
    (beforePlain : IsPlain before) (beforeEnds : before.getLast? ≠ some '\\')
    (innerPlain : IsPlain inner) (innerEnds : inner.getLast? ≠ some '\\')
    (behind : Shows rest shown) :
    Shows (before ++ ('[' :: name ++ ']' :: (inner ++ ('[' :: ('/' :: name) ++ ']' :: rest))))
      (before ++ (inner ++ shown)) := by
  intro console place fuel enough
  obtain ⟨first, second, left, room, opened⟩ :=
    exists_pieces_tag beforePlain.noTag beforeEnds (style.tag?_opening _) place enough
  obtain ⟨third, fourth, left', room', closed⟩ :=
    exists_pieces_tag innerPlain.noTag innerEnds (tag?_slash style.simple rest) second room
  obtain ⟨tags, read, simple⟩ := behind console fourth left' room'
  refine ⟨⟨name, none⟩ :: tags, ?_, List.forall_mem_cons.mpr ⟨rfl, simple⟩⟩
  rw [opened, closed, style.pieceOfTag_opening, pieceOfTag_slash style.simple, textOf_plain,
    textOf_plain, style.textOf_styled, read, beforePlain.noCode]
  simp only [Except.map, innerPlain.noCode]
  rfl

/-- The styles of what is printed of a report. -/
theorem isStyle_of_mem {name : String}
    (member : name ∈ ["bold", "red", "yellow", "cyan", "green"]) : IsStyle name.toList := by
  simp only [List.mem_cons, List.not_mem_nil, or_false] at member
  rcases member with rfl | rfl | rfl | rfl | rfl
  all_goals
    exact ⟨⟨_, _, rfl, by decide, by decide⟩, by simp, by decide, by decide +kernel⟩

/-! ### What is printed -/

/-- Tags that say no more than a name do not keep a text from being shown. -/
theorem shown_of_simple {marked : MarkedText} (simple : ∀ tag ∈ marked.tags, tag.said = none)
    (console : Console) (width : Nat) : marked.shown console width = .ok marked.plain := by
  have none : marked.tags.findSome? Tag.styleFailure? = none :=
    List.findSome?_eq_none_iff.mpr fun tag member => by rw [Tag.styleFailure?, simple tag member]
  unfold MarkedText.shown
  rw [none]

/-- What a text shows is read, if no control character in it is dropped. -/
theorem Shows.read {text shown : List Char} (shows : Shows text shown)
    (kept : ∀ character ∈ shown, isDropped character = false) (console : Console) :
    ∃ marked, Markup.read console text = .ok marked ∧ marked.plain = shown ∧
      ∀ tag ∈ marked.tags, tag.said = none := by
  obtain ⟨tags, found, simple⟩ := shows console 0 (text.length + 1) (Nat.lt_succ_self _)
  have whole : (shown.filter fun character => !isDropped character) = shown :=
    List.filter_eq_self.mpr fun character member => by simp [kept character member]
  refine ⟨⟨text, shown, tags⟩, ?_, rfl, simple⟩
  rw [Markup.read, found]
  dsimp only [bind, Except.bind]
  rw [whole]
  rfl

/-! ### What is broken -/

/-- A tag that ends what nothing began breaks the text that it stands in. -/
theorem exists_read_eq_error {before name : List Char} (noTag : HoldsNoTag before)
    (ends : before.getLast? ≠ some '\\')
    (simple : ∀ character ∈ name, character ≠ '[' ∧ character ≠ ']' ∧ character ≠ '=')
    (rest : List Char) (console : Console) :
    ∃ failure, Markup.read console (before ++ ('[' :: ('/' :: name) ++ ']' :: rest)) =
      .error failure := by
  obtain ⟨place, behind, fuel, -, split⟩ :=
    exists_pieces_tag noTag ends (tag?_slash simple rest) 0 (Nat.lt_succ_self _)
  have unopened : ∃ failure, ended [] ⟨'/' :: name, none⟩ place = .error failure := by
    unfold ended
    dsimp only
    split
    · exact ⟨_, rfl⟩
    · cases (Tag.mk (trim ('/' :: name).tail) none).normal with
      | error failure => exact ⟨failure, rfl⟩
      | ok wanted => exact ⟨_, rfl⟩
  obtain ⟨failure, unopened⟩ := unopened
  refine ⟨failure, ?_⟩
  rw [Markup.read, split, pieceOfTag_slash simple, textOf_plain, textOf_plain, textOf, unopened]
  rfl

end LlmTxt.Terminal.Markup

/-
This file reads import statements of example code back. Code without quotes and number signs is not
blanked anywhere, a line without parentheses does not go on, and an import statement that is written
out, with any white space and with parentheses around its names or without, is read as what it says.
-/

import LlmTxt.Example.Reference
import LlmTxt.Proofs.Name

namespace LlmTxt

open Text

/-! ### Code without strings and comments -/

namespace Noise

/-- A character begins neither a string nor a comment. -/
def IsPlain (character : Char) : Prop :=
  character ≠ '"' ∧ character ≠ '\'' ∧ character ≠ '#'

variable {text : List Char}

theorem stringLength_of_plain (plain : ∀ character ∈ text, IsPlain character) :
    stringLength ⟨plainQuotes, true⟩ text = none := by
  refine List.findSome?_eq_none_iff.mpr fun quote member => ?_
  cases text with
  | nil => rfl
  | cons first rest =>
    obtain ⟨noDouble, noSingle, _⟩ := plain first List.mem_cons_self
    rcases List.mem_pair.mp member with rfl | rfl
    · exact if_neg noDouble
    · exact if_neg noSingle

theorem literalLength_of_plain (plain : ∀ character ∈ text, IsPlain character)
    (previous : Option Char) : literalLength ⟨plainQuotes, true⟩ previous text = none := by
  have behind : stringLength ⟨plainQuotes, true⟩
      (text.drop (text.takeWhile isStringLetter).length) = none :=
    stringLength_of_plain fun character member => plain character (List.mem_of_mem_drop member)
  unfold literalLength
  dsimp only
  rw [if_pos rfl, behind]
  exact ite_self none

theorem commentLength_of_plain (plain : ∀ character ∈ text, IsPlain character) :
    commentLength Language.numberSign text = none := by
  have noSign : after? ['#'] text = none := by
    cases text with
    | nil => rfl
    | cons first rest => exact if_neg (plain first List.mem_cons_self).2.2.symm
  unfold commentLength Language.numberSign
  dsimp only
  rw [noSign]
  rfl

theorem marksOf_python :
    marksOf "python" = ⟨⟨plainQuotes, true⟩, Language.numberSign⟩ := by
  decide

/-- Nothing is blanked in code where no string and no comment begins. -/
theorem sanitize_of_plain (plain : ∀ character ∈ text, IsPlain character) :
    sanitize text "python" = text := by
  unfold sanitize
  rw [marksOf_python]
  generalize (none : Option Char) = previous
  induction text generalizing previous with
  | nil => rfl
  | cons character rest inductionHypothesis =>
    have nothing : length ⟨⟨plainQuotes, true⟩, Language.numberSign⟩ previous (character :: rest) =
        0 := by
      unfold length
      rw [literalLength_of_plain plain, commentLength_of_plain plain]
      rfl
    rw [blankFrom, nothing]
    exact congrArg (character :: ·)
      (inductionHypothesis (fun other later => plain other (List.mem_cons_of_mem _ later)) _)

end Noise

/-! ### Statements on one line -/

namespace ExampleCode

theorem mem_of_mem_statementsFrom {lines : List (List Char)}
    (single : ∀ line ∈ lines, ImportStatement.goesOn line = false) {number : Nat}
    {statement : Nat × List Char} (member : statement ∈ statementsFrom none number lines) :
    statement.2 ∈ lines := by
  induction lines generalizing number with
  | nil => cases member
  | cons line rest inductionHypothesis =>
    rw [statementsFrom, single line List.mem_cons_self] at member
    rcases List.mem_cons.mp member with rfl | later
    · exact List.mem_cons_self
    · exact List.mem_cons_of_mem _
        (inductionHypothesis (fun other below => single other (List.mem_cons_of_mem _ below)) later)

end ExampleCode

/-! ### Imports -/

namespace ImportItem

/-- A text is an item of an import written out, with white space around it: a dotted name, and
perhaps the name that it is bound to. -/
inductive IsWritten : List Char → ImportItem → Prop where
  | plain {front name back : List Char} (before : ∀ character ∈ front, isBlank character = true)
      (path : Name.isPath name = true) (behind : ∀ character ∈ back, isBlank character = true) :
      IsWritten (front ++ (name ++ back)) ⟨name, none⟩
  | bound {front name gap space other back : List Char}
      (before : ∀ character ∈ front, isBlank character = true) (path : Name.isPath name = true)
      (isSpace : IsSpace gap) (nextSpace : IsSpace space)
      (identifier : Name.isIdentifier other = true)
      (behind : ∀ character ∈ back, isBlank character = true) :
      IsWritten (front ++ ((name ++ (gap ++ ("as".toList ++ (space ++ other)))) ++ back))
        ⟨name, some other⟩

/-- Pieces between commas are the items of a list written out. A piece of white space is none, such
as that behind a comma at the end. -/
inductive AreWritten : List (List Char) → List ImportItem → Prop where
  | nil : AreWritten [] []
  | item {piece : List Char} {item : ImportItem} {pieces : List (List Char)}
      {items : List ImportItem} (isWritten : IsWritten piece item)
      (others : AreWritten pieces items) : AreWritten (piece :: pieces) (item :: items)
  | nothing {piece : List Char} {pieces : List (List Char)} {items : List ImportItem}
      (blank : ∀ character ∈ piece, isBlank character = true) (others : AreWritten pieces items) :
      AreWritten (piece :: pieces) items

theorem afterBlanks?_append {gap text : List Char} (isSpace : IsSpace gap)
    (begins : ∀ first ∈ text.head?, isBlank first = false) :
    afterBlanks? (gap ++ text) = some text := by
  obtain ⟨first, more, rfl⟩ := List.exists_cons_of_ne_nil isSpace.nonempty
  obtain ⟨own, others⟩ := List.forall_mem_cons.mp isSpace.blank
  rw [List.cons_append, afterBlanks?, if_pos own, List.dropWhile_append_of_pos others,
    dropWhile_of_head? begins]

theorem isBlank_head?_of_isPath {name rest : List Char} (path : Name.isPath name = true) :
    ∀ first ∈ (name ++ rest).head?, isBlank first = false := by
  intro first member
  rw [List.head?_append_of_ne_nil _ (Name.ne_nil_of_isPath path)] at member
  exact isBlank_of_isWord (Name.isWord_head?_of_isPath path first member)

theorem endsName_of_isSpace {gap rest : List Char} (isSpace : IsSpace gap) :
    Name.EndsName (gap ++ rest) := by
  obtain ⟨first, more, rfl⟩ := List.exists_cons_of_ne_nil isSpace.nonempty
  have own := isSpace.blank first List.mem_cons_self
  refine Name.endsName_cons (isWord_of_isBlank own) ?_
  rintro rfl
  cases own

/-- An item is read from what it is written as. -/
theorem IsWritten.ofText?_eq {text : List Char} {item : ImportItem}
    (isWritten : IsWritten text item) :
    ofText? text = some item := by
  unfold ofText?
  cases isWritten with
  | @plain front name back before path behind =>
    have bare : trim (front ++ (name ++ back)) = name := by
      refine trimBy_of_split before behind ?_ ?_
      · exact fun first member => isBlank_of_isWord (Name.isWord_head?_of_isPath path first member)
      · exact fun last member => isBlank_of_isWord (Name.isWord_getLast?_of_isPath path last member)
    have taken := Name.takePath?_append path Name.endsName_nil
    rw [List.append_nil] at taken
    rw [bare, taken]
  | @bound front name gap space other back before path isSpace nextSpace identifier behind =>
    have otherPath := Name.isPath_of_isIdentifier identifier
    have bare : trim (front ++ ((name ++ (gap ++ ("as".toList ++ (space ++ other)))) ++ back)) =
        name ++ (gap ++ ("as".toList ++ (space ++ other))) := by
      refine trimBy_of_split before behind (isBlank_head?_of_isPath path) fun last member => ?_
      simp only [← List.append_assoc] at member
      rw [getLast?_append_of_ne_nil _ (Name.ne_nil_of_isPath otherPath)] at member
      exact isBlank_of_isWord (Name.isWord_getLast?_of_isPath otherPath last member)
    have word : afterBlankWord? "as" (gap ++ ("as".toList ++ (space ++ other))) =
        some (space ++ other) := by
      unfold afterBlankWord?
      rw [afterBlanks?_append isSpace (by rintro _ ⟨⟩; rfl), Option.bind_some]
      exact after?_eq_some_iff.mpr rfl
    have own : afterBlanks? (space ++ other) = some other :=
      afterBlanks?_append nextSpace fun first member =>
        isBlank_of_isWord (Name.isWord_head?_of_isPath otherPath first member)
    have identifierTaken : Name.takeIdentifier? other = some (other, []) := by
      obtain ⟨first, more, rfl, begins, words⟩ := Name.exists_of_isIdentifier identifier
      rw [Name.takeIdentifier?, if_pos begins, List.takeWhile_eq_self_iff.mpr words,
        List.dropWhile_eq_nil_iff.mpr words]
    obtain ⟨first, more, gap_eq⟩ := List.exists_cons_of_ne_nil isSpace.nonempty
    rw [bare, Name.takePath?_append path (endsName_of_isSpace isSpace)]
    rw [gap_eq] at word ⊢
    dsimp only [List.cons_append] at word ⊢
    rw [word, Option.bind_some, own, Option.bind_some, identifierTaken]

theorem IsWritten.notMem_comma {text : List Char} {item : ImportItem}
    (isWritten : IsWritten text item) : ',' ∉ text := by
  have noBlank {part : List Char} (blank : ∀ character ∈ part, isBlank character = true) :
      ',' ∉ part := fun member => by cases blank ',' member
  have noName {name : List Char} (path : Name.isPath name = true) : ',' ∉ name := by
    intro member
    rcases Name.isWord_or_eq_dot_of_isPath path ',' member with word | dot
    · cases word
    · cases dot
  cases isWritten with
  | plain before path behind =>
    simp only [List.mem_append, not_or]
    exact ⟨noBlank before, noName path, noBlank behind⟩
  | bound before path isSpace nextSpace identifier behind =>
    simp only [List.mem_append, not_or]
    exact ⟨noBlank before, ⟨noName path, noBlank isSpace.blank, by decide,
      noBlank nextSpace.blank, noName (Name.isPath_of_isIdentifier identifier)⟩, noBlank behind⟩

theorem AreWritten.filterMap_eq {pieces : List (List Char)} {items : List ImportItem}
    (written : AreWritten pieces items) : pieces.filterMap ofText? = items := by
  induction written with
  | nil => rfl
  | item isWritten others inductionHypothesis =>
    rw [List.filterMap_cons, isWritten.ofText?_eq, inductionHypothesis]
  | @nothing piece _ _ blank others inductionHypothesis =>
    have bare : trim piece = [] := by
      unfold trim trimBy
      rw [List.dropWhile_eq_nil_iff.mpr blank]
      rfl
    have none : ofText? piece = none := by
      unfold ofText?
      rw [bare]
      rfl
    rw [List.filterMap_cons, none, inductionHypothesis]

/-- A list is read item by item from what it is written as. -/
theorem AreWritten.listOf_eq {pieces : List (List Char)} {items : List ImportItem}
    (written : AreWritten pieces items) (nonempty : pieces ≠ []) :
    listOf ([','].intercalate pieces) = items := by
  have noComma : ∀ piece ∈ pieces, ',' ∉ piece := by
    clear nonempty
    induction written with
    | nil => exact nofun
    | item isWritten others inductionHypothesis =>
      exact List.forall_mem_cons.mpr ⟨isWritten.notMem_comma, inductionHypothesis⟩
    | nothing blank others inductionHypothesis =>
      refine List.forall_mem_cons.mpr ⟨fun member => ?_, inductionHypothesis⟩
      cases blank ',' member
  unfold listOf
  rw [splitAt_intercalate noComma nonempty, written.filterMap_eq]

end ImportItem

namespace ImportStatement

/-- A text is an import statement written out. White space may stand before it, and stands between
its words; parentheses in a list of names count as white space. -/
inductive IsWritten : List Char → ImportStatement → Prop where
  | ofNames {indent gap space more module list : List Char} {pieces : List (List Char)}
      {items : List ImportItem} (before : ∀ character ∈ indent, isBlank character = true)
      (isSpace : IsSpace gap) (path : Name.isPath module = true) (nextSpace : IsSpace space)
      (lastSpace : IsSpace more) (begins : ∀ first ∈ list.head?, isBlank first = false)
      (list_eq : withoutParentheses list = [','].intercalate pieces) (nonempty : pieces ≠ [])
      (areWritten : ImportItem.AreWritten pieces items) :
      IsWritten (indent ++ ("from".toList ++ (gap ++ (module ++ (space ++ ("import".toList ++
        (more ++ list))))))) (.ofNames module items)
  | ofModules {indent gap list : List Char} {pieces : List (List Char)} {items : List ImportItem}
      (before : ∀ character ∈ indent, isBlank character = true) (isSpace : IsSpace gap)
      (begins : ∀ first ∈ list.head?, isBlank first = false)
      (list_eq : list = [','].intercalate pieces) (nonempty : pieces ≠ [])
      (areWritten : ImportItem.AreWritten pieces items) :
      IsWritten (indent ++ ("import".toList ++ (gap ++ list))) (.ofModules items)

theorem goesOn_of_not_mem {line : List Char} (absent : '(' ∉ line) : goesOn line = false := by
  have noParenthesis : line.contains '(' = false := by
    simpa using absent
  unfold goesOn
  rw [noParenthesis, Bool.and_false, Bool.false_and]

/-- An import statement is read from what it is written as. -/
theorem IsWritten.ofText?_eq {text : List Char} {written : ImportStatement}
    (isWritten : written.IsWritten text) : ofText? text = some written := by
  have bare {indent : List Char} (before : ∀ character ∈ indent, isBlank character = true)
      {word : List Char} (begins : ∀ first ∈ word.head?, isBlank first = false) :
      (indent ++ word).dropWhile isBlank = word := by
    rw [List.dropWhile_append_of_pos before, dropWhile_of_head? begins]
  unfold ofText?
  cases isWritten with
  | @ofNames indent gap space more module list pieces items before isSpace path nextSpace lastSpace
      begins list_eq nonempty areWritten =>
    have names : namesOf? (indent ++ ("from".toList ++ (gap ++ (module ++ (space ++
        ("import".toList ++ (more ++ list))))))) = some (module, list) := by
      unfold namesOf? ImportItem.afterBlankWord?
      rw [bare before (by rintro _ ⟨⟩; rfl), after?_eq_some_iff.mpr rfl, Option.bind_some,
        ImportItem.afterBlanks?_append isSpace (ImportItem.isBlank_head?_of_isPath path),
        Option.bind_some, Name.takePath?_append path (ImportItem.endsName_of_isSpace nextSpace)]
      dsimp only
      rw [ImportItem.afterBlanks?_append nextSpace (by rintro _ ⟨⟩; rfl), Option.bind_some,
        after?_eq_some_iff.mpr rfl, Option.bind_some,
        ImportItem.afterBlanks?_append lastSpace begins]
      rfl
    rw [names]
    dsimp only
    rw [list_eq, areWritten.listOf_eq nonempty]
  | @ofModules indent gap list pieces items before isSpace begins list_eq nonempty areWritten =>
    have whole : (indent ++ ("import".toList ++ (gap ++ list))).dropWhile isBlank =
        "import".toList ++ (gap ++ list) := bare before (by rintro _ ⟨⟩; rfl)
    have noNames : namesOf? (indent ++ ("import".toList ++ (gap ++ list))) = none := by
      unfold namesOf?
      rw [whole]
      rfl
    have modules : modulesOf? (indent ++ ("import".toList ++ (gap ++ list))) = some list := by
      unfold modulesOf?
      rw [whole, after?_eq_some_iff.mpr rfl, Option.bind_some,
        ImportItem.afterBlanks?_append isSpace begins]
    rw [noNames, modules, list_eq, Option.map_some, areWritten.listOf_eq nonempty]

/-- A line that takes a name out of a module is read so. -/
theorem ofText?_import {module name : List Char} (path : Name.isPath module = true)
    (identifier : Name.isIdentifier name = true) :
    ofText? ("from ".toList ++ (module ++ (" import ".toList ++ name))) =
      some (.ofNames module [⟨name, none⟩]) := by
  have space : IsSpace [' '] := ⟨List.cons_ne_nil _ _, List.all_eq_true.mp rfl⟩
  have namePath := Name.isPath_of_isIdentifier identifier
  have words := Name.isWord_of_isIdentifier identifier
  have kept : withoutParentheses name = name := by
    refine (List.map_congr_left fun character member => ?_).trans (List.map_id name)
    have noOpening := ne_of_isWord (words character member) (by decide : isWord '(' = false)
    have noClosing := ne_of_isWord (words character member) (by decide : isWord ')' = false)
    simp [noOpening, noClosing]
  have item : ImportItem.IsWritten name ⟨name, none⟩ := by
    have alone := ImportItem.IsWritten.plain (List.forall_mem_nil _) namePath (List.forall_mem_nil _)
    rwa [List.append_nil, List.nil_append] at alone
  have begins : ∀ first ∈ name.head?, isBlank first = false :=
    fun first member => isBlank_of_isWord (Name.isWord_head?_of_isPath namePath first member)
  have single : [','].intercalate [name] = name := List.intercalate_singleton
  exact (IsWritten.ofNames (List.forall_mem_nil _) space path space space begins
    (kept.trans single.symm) (List.cons_ne_nil _ _) (.item item .nil)).ofText?_eq

end ImportStatement

end LlmTxt

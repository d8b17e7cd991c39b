/-
This file says how a list item of an Index is written: with a mark behind its indentation, and a
gap behind the mark. The name of a module stands between marks of emphasis, as code or as the label
of a link, and the label of a category stands before a colon. Whatever is read as such is written
so. The other way round, a name is read whole if nothing that could belong to it follows, and a
label if it is one of those that are known.
-/

import LlmTxt.Outline.Reading
import LlmTxt.Proofs.Name
import LlmTxt.Proofs.Text.Case

namespace LlmTxt

open Text

namespace Bullet

/-! ### List items -/

/-- The mark of a list item. -/
def isMark (character : Char) : Bool :=
  character == '-' || character == '*' || character == '+'

/-- A line is a list item: white space, a mark, more white space and what the item says. -/
def IsWritten (line : List Char) (bullet : Bullet) : Prop :=
  ∃ blanks mark gap content, line = blanks ++ mark :: (gap ++ content) ∧
    (∀ character ∈ blanks, isGap character = true) ∧ isMark mark = true ∧ gap ≠ [] ∧
      (∀ character ∈ gap, isGap character = true) ∧
        (∀ first ∈ content.head?, isGap first = false) ∧
          bullet = ⟨indentWidth blanks, dropRightWhile isBlank content⟩

theorem ofLine?_eq_some_iff {line : List Char} {bullet : Bullet} :
    ofLine? line = some bullet ↔ IsWritten line bullet := by
  constructor
  · intro found
    unfold ofLine? at found
    split at found
    · rename_i mark gap rest shape
      split at found
      · rename_i own
        obtain ⟨isMark, isGap⟩ := Bool.and_eq_true_iff.mp own
        cases found
        refine ⟨line.takeWhile Text.isGap, mark, gap :: rest.takeWhile Text.isGap,
          rest.dropWhile Text.isGap, ?_, fun _ member => List.mem_takeWhile_imp member, isMark,
          List.cons_ne_nil _ _, ?_, ?_, rfl⟩
        · rw [List.cons_append, List.takeWhile_append_dropWhile, ← shape,
            List.takeWhile_append_dropWhile]
        · exact List.forall_mem_cons.mpr ⟨isGap, fun _ member => List.mem_takeWhile_imp member⟩
        · intro first member
          have notGap := List.head?_dropWhile_not Text.isGap rest
          rw [Option.mem_def.mp member] at notGap
          exact notGap
      · cases found
    · cases found
  · rintro ⟨blanks, mark, gap, content, rfl, allBlanks, isMark, nonempty, allGap, begins, rfl⟩
    obtain ⟨first, more, rfl⟩ := List.exists_cons_of_ne_nil nonempty
    obtain ⟨firstGap, moreGap⟩ := List.forall_mem_cons.mp allGap
    have noGap : Text.isGap mark = false := by
      simp only [Bullet.isMark, Bool.or_eq_true, beq_iff_eq] at isMark
      rcases isMark with (rfl | rfl) | rfl <;> rfl
    have rest : (blanks ++ mark :: (first :: more ++ content)).dropWhile Text.isGap =
        mark :: first :: (more ++ content) := by
      rw [List.dropWhile_append_of_pos allBlanks, List.dropWhile_cons_of_neg (by simp [noGap])]
      rfl
    have lead : (blanks ++ mark :: (first :: more ++ content)).takeWhile Text.isGap = blanks := by
      rw [List.takeWhile_append_of_pos allBlanks, List.takeWhile_cons_of_neg (by simp [noGap]),
        List.append_nil]
    unfold ofLine?
    rw [rest, lead]
    dsimp only
    rw [if_pos, List.dropWhile_append_of_pos moreGap, dropWhile_of_head? begins]
    exact Bool.and_eq_true_iff.mpr ⟨isMark, firstGap⟩

theorem ofLine?_eq_none_iff {line : List Char} :
    ofLine? line = none ↔ ∀ bullet, ¬IsWritten line bullet := by
  simp only [← ofLine?_eq_some_iff]
  exact Option.eq_none_iff_forall_ne_some

/-! ### Marks that may be there -/

theorem exists_skip (lead text : List Char) :
    ∃ opening, opening ∈ [[], lead] ∧ text = opening ++ skip lead text := by
  unfold skip
  cases found : after? lead text with
  | none => exact ⟨[], by simp, rfl⟩
  | some rest => exact ⟨lead, by simp, after?_eq_some_iff.mp found⟩

/-- A mark is skipped, if it is there, before a text that does not begin as the mark does. -/
theorem skip_append {opening rest : List Char} {first : Char} {more : List Char}
    (isOpening : opening ∈ [[], first :: more]) (begins : rest.head? ≠ some first) :
    skip (first :: more) (opening ++ rest) = rest := by
  unfold skip
  rcases List.mem_pair.mp isOpening with rfl | rfl
  · have noMark : after? (first :: more) rest = none := by
      refine Option.eq_none_iff_forall_ne_some.mpr fun after found => begins ?_
      rw [after?_eq_some_iff.mp found]
      rfl
    rw [List.nil_append, noMark]
    rfl
  · rw [after?_eq_some_iff.mpr rfl]
    rfl

end Bullet

/-! ### Names of modules -/

namespace ModuleName

/-- A backtick that may be there. -/
def ticks : List (List Char) :=
  [[], ['\x60']]

theorem nil_mem_ticks : [] ∈ ticks :=
  List.mem_cons_self

theorem tick_mem_ticks : ['\x60'] ∈ ticks :=
  List.mem_cons_of_mem _ List.mem_cons_self

/-- Stars that may be there. -/
def stars : List (List Char) :=
  [[], ['*', '*']]

theorem nil_mem_stars : [] ∈ stars :=
  List.mem_cons_self

/-- A name is formatted: it stands between two stars or underscores, perhaps with backticks inside,
or between backticks, or it is the label of a link, perhaps with stars and backticks inside. -/
inductive IsFormatted (name : List Char) : List Char → Prop
  | bold {opening closing : List Char} (opens : opening ∈ ticks) (closes : closing ∈ ticks) :
    IsFormatted name (['*', '*'] ++ (opening ++ (name ++ (closing ++ ['*', '*']))))
  | underscored {opening closing : List Char} (opens : opening ∈ ticks) (closes : closing ∈ ticks) :
    IsFormatted name (['_', '_'] ++ (opening ++ (name ++ (closing ++ ['_', '_']))))
  | coded : IsFormatted name ('\x60' :: (name ++ ['\x60']))
  | linked {lead opening closing trail : List Char} (target : List Char) (leads : lead ∈ stars)
    (opens : opening ∈ ticks) (closes : closing ∈ ticks) (trails : trail ∈ stars) :
    IsFormatted name ('[' :: (lead ++ (opening ++ (name ++ (closing ++ (trail ++
      (']' :: '(' :: (target ++ [')']))))))))

/-- A text begins with a dotted name that is formatted. -/
structure Begins (content name : List Char) : Prop where
  path : Name.isPath name = true
  split : ∃ marked rest, content = marked ++ rest ∧ IsFormatted name marked

variable {name content : List Char}

/-- What is found between two marks is a name, perhaps with backticks inside the marks. -/
theorem exists_of_nameBetween {mark : List Char}
    (found : Bullet.nameBetween mark (fun text => (after? mark text).isSome) content = some name) :
    Name.isPath name = true ∧ ∃ opening ∈ ticks, ∃ closing ∈ ticks, ∃ rest,
      content = (mark ++ (opening ++ (name ++ (closing ++ mark)))) ++ rest := by
  unfold Bullet.nameBetween at found
  split at found
  · cases found
  · rename_i inside opens
    obtain ⟨candidate, known, rfl⟩ := Option.map_eq_some_iff.mp found
    obtain ⟨path, split⟩ := Name.of_mem_pathsOf (List.mem_of_find?_eq_some known)
    obtain ⟨opening, isOpening, inside_eq⟩ := Bullet.exists_skip ['\x60'] inside
    have closes := List.find?_some known
    obtain ⟨closing, isClosing, rest, candidate_eq⟩ : ∃ closing ∈ ticks, ∃ rest,
        candidate.2 = closing ++ (mark ++ rest) := by
      rcases Bool.or_eq_true_iff.mp closes with plain | ticked
      · obtain ⟨rest, after⟩ := Option.isSome_iff_exists.mp plain
        refine ⟨[], by simp [ticks], rest, ?_⟩
        rw [List.nil_append]
        exact after?_eq_some_iff.mp after
      · obtain ⟨rest, after⟩ := Option.isSome_iff_exists.mp ticked
        obtain ⟨closing, isClosing, whole⟩ := Bullet.exists_skip ['\x60'] candidate.2
        exact ⟨closing, isClosing, rest, by rw [whole, after?_eq_some_iff.mp after]⟩
    refine ⟨path, opening, isOpening, closing, isClosing, rest, ?_⟩
    rw [after?_eq_some_iff.mp opens, inside_eq, split, candidate_eq]
    simp only [List.append_assoc]

theorem begins_of_boldName (found : Bullet.boldName content = some name) : Begins content name := by
  rcases Option.or_eq_some_iff.mp found with stars | ⟨_, scores⟩
  · obtain ⟨path, opening, opens, closing, closes, rest, split⟩ := exists_of_nameBetween stars
    exact ⟨path, _, rest, split, .bold opens closes⟩
  · obtain ⟨path, opening, opens, closing, closes, rest, split⟩ := exists_of_nameBetween scores
    exact ⟨path, _, rest, split, .underscored opens closes⟩

theorem begins_of_codedName (found : Bullet.codedName content = some name) :
    Begins content name := by
  unfold Bullet.codedName at found
  split at found
  · rename_i inside
    split at found
    · rename_i taken rest path
      cases found
      refine ⟨Name.isPath_of_takePath? path, _, rest, ?_, .coded⟩
      rw [Name.append_of_takePath? path]
      simp
    · cases found
  · cases found

/-- The label of a link is followed by a bracket and the target. -/
theorem exists_of_closesLink {text : List Char} (closes : Bullet.closesLink text = true) :
    ∃ closing ∈ ticks, ∃ trail ∈ stars, ∃ target rest,
      text = closing ++ (trail ++ (']' :: '(' :: (target ++ ')' :: rest))) := by
  obtain ⟨closing, isClosing, first⟩ := Bullet.exists_skip ['\x60'] text
  obtain ⟨trail, isTrail, second⟩ := Bullet.exists_skip ['*', '*'] (Bullet.skip ['\x60'] text)
  unfold Bullet.closesLink at closes
  split at closes
  · rename_i target shape
    obtain ⟨before, behind, rfl⟩ := List.append_of_mem (List.contains_iff_mem.mp closes)
    exact ⟨closing, isClosing, trail, isTrail, before, behind, by rw [first, second, shape]⟩
  · cases closes

theorem begins_of_linkedName (found : Bullet.linkedName content = some name) :
    Begins content name := by
  unfold Bullet.linkedName at found
  split at found
  · rename_i label
    split at found
    · rename_i taken left path
      split at found
      · rename_i closes
        cases found
        obtain ⟨lead, isLead, first⟩ := Bullet.exists_skip ['*', '*'] label
        obtain ⟨opening, isOpening, second⟩ :=
          Bullet.exists_skip ['\x60'] (Bullet.skip ['*', '*'] label)
        obtain ⟨closing, isClosing, trail, isTrail, target, rest, third⟩ :=
          exists_of_closesLink closes
        refine ⟨Name.isPath_of_takePath? path, _, rest, ?_,
          .linked target isLead isOpening isClosing isTrail⟩
        rw [first, second, Name.append_of_takePath? path, third]
        simp
      · cases found
    · cases found
  · cases found

/-- What is read as the name of a module with a format is written so, and is a dotted name. -/
theorem begins_of_moduleName? (found : Bullet.moduleName? content = some (name, true)) :
    Begins content name := by
  unfold Bullet.moduleName? at found
  split at found
  · rename_i own formatted
    cases found
    rcases Option.or_eq_some_iff.mp formatted with boldOrCoded | ⟨_, linked⟩
    · rcases Option.or_eq_some_iff.mp boldOrCoded with bold | ⟨_, coded⟩
      · exact begins_of_boldName bold
      · exact begins_of_codedName coded
    · exact begins_of_linkedName linked
  · obtain ⟨_, _, same⟩ := Option.map_eq_some_iff.mp found
    cases same

/-- Nothing stands there, or white space first. -/
def IsApart (rest : List Char) : Prop :=
  ∀ first ∈ rest.head?, isBlank first = true

theorem isApart_nil : IsApart [] := by
  rintro _ ⟨⟩

theorem IsApart.head?_ne {rest : List Char} (apart : IsApart rest) {character : Char}
    (noBlank : isBlank character = false) : rest.head? ≠ some character := by
  intro same
  rw [apart character same] at noBlank
  cases noBlank

theorem IsApart.endsName {rest : List Char} (apart : IsApart rest) : Name.EndsName rest := by
  intro first member
  have blank := apart first member
  refine ⟨isWord_of_isBlank blank, ?_⟩
  rintro rfl
  cases blank

theorem head?_append_of_isPath (path : Name.isPath name = true) {character : Char}
    (noWord : isWord character = false) (rest : List Char) :
    (name ++ rest).head? ≠ some character := by
  obtain ⟨first, more, rfl, begins, _⟩ := Name.exists_of_isPath path
  intro same
  cases same
  rw [isWord_of_isNameStart begins] at noWord
  cases noWord

/-- Two marks of emphasis close a name, perhaps with a backtick before them. -/
def isClosed (mark : Char) (text : List Char) : Bool :=
  (after? [mark, mark] text).isSome || (after? [mark, mark] (Bullet.skip ['\x60'] text)).isSome

theorem isClosed_append {mark : Char} (noTick : mark ≠ '\x60') {closing : List Char}
    (closes : closing ∈ ticks) (rest : List Char) :
    isClosed mark (closing ++ ([mark, mark] ++ rest)) = true := by
  have begins : ([mark, mark] ++ rest).head? ≠ some '\x60' := fun same =>
    noTick (Option.some.inj same)
  unfold isClosed
  rw [Bullet.skip_append closes begins, after?_eq_some_iff.mpr rfl]
  exact Bool.or_true _

theorem isClosed_of_ne {mark : Char} {text : List Char}
    (noMark : ∀ rest, text ≠ mark :: mark :: rest) (noTick : text.head? ≠ some '\x60') :
    isClosed mark text = false := by
  have bare : Bullet.skip ['\x60'] text = text :=
    Bullet.skip_append List.mem_cons_self noTick
  have noClose : after? [mark, mark] text = none :=
    Option.eq_none_iff_forall_ne_some.mpr fun rest found =>
      noMark rest (after?_eq_some_iff.mp found)
  unfold isClosed
  rw [bare, noClose]
  rfl

/-- Of two underscores behind a name, no part can belong to the name if they are to close it. -/
theorem isClosed_of_score {rest front back : List Char} (apart : IsApart rest)
    (split : ['_', '_'] = front ++ back) (nonempty : front ≠ []) :
    isClosed '_' (back ++ rest) = false := by
  have noScore : rest.head? ≠ some '_' := apart.head?_ne rfl
  have noTick : rest.head? ≠ some '\x60' := apart.head?_ne rfl
  obtain ⟨first, more, rfl⟩ := List.exists_cons_of_ne_nil nonempty
  obtain ⟨rfl, others⟩ := List.cons.inj split
  rcases List.singleton_eq_append_iff.mp others with ⟨_, rfl⟩ | ⟨_, rfl⟩
  · refine isClosed_of_ne (fun after same => noScore ?_) (by simp)
    have others : rest = '_' :: after := (List.cons.inj same).2
    rw [others]
    rfl
  · refine isClosed_of_ne (fun after same => noScore ?_) noTick
    have whole : rest = '_' :: '_' :: after := same
    rw [whole]
    rfl

/-- Between two marks of emphasis, the name is the longest that a closing mark can follow. -/
theorem find?_isClosed (path : Name.isPath name = true) {mark : Char}
    (isEmphasis : Bullet.isEmphasis mark = true) {closing rest : List Char}
    (closes : closing ∈ ticks) (apart : IsApart rest) :
    ∃ left, (Name.pathsOf (name ++ (closing ++ ([mark, mark] ++ rest)))).find?
      (fun candidate => isClosed mark candidate.2) = some (name, left) := by
  have noTick : mark ≠ '\x60' := by
    rintro rfl
    cases isEmphasis
  have whole := isClosed_append noTick closes rest
  by_cases ends : Name.EndsName (closing ++ ([mark, mark] ++ rest))
  · obtain ⟨others, paths⟩ := Name.pathsOf_append path ends
    rw [paths]
    exact ⟨_, List.find?_cons_of_pos whole⟩
  · -- What could belong to the name are two underscores that close it.
    have scores : closing = [] ∧ mark = '_' := by
      rcases List.mem_pair.mp closes with rfl | rfl
      · refine ⟨rfl, ?_⟩
        rcases Bool.or_eq_true_iff.mp isEmphasis with star | score
        · rw [eq_of_beq star] at ends
          exact absurd (Name.endsName_cons (by decide) (by decide)) ends
        · exact eq_of_beq score
      · exact absurd (Name.endsName_cons (by decide) (by decide)) ends
    obtain ⟨rfl, rfl⟩ := scores
    have scoresWord : ∀ character ∈ ['_', '_'], isWord character = true :=
      List.all_eq_true.mp rfl
    obtain ⟨longer, others, paths, known⟩ := Name.pathsOf_append_append
      (Name.isPath_append path scoresWord) (Name.ne_nil_of_isPath path)
      (Name.getLast?_ne_dot_of_isPath path) apart.endsName
    have noneLonger : longer.find? (fun candidate => isClosed '_' candidate.2) = none := by
      refine List.find?_eq_none.mpr fun candidate member => ?_
      obtain ⟨front, back, split, filled, rfl⟩ := known candidate member
      rw [isClosed_of_score apart split filled]
      exact Bool.false_ne_true
    rw [List.nil_append, paths, List.find?_append, noneLonger, Option.none_or]
    exact ⟨_, List.find?_cons_of_pos whole⟩

theorem nameBetween_append (path : Name.isPath name = true) {mark : Char}
    (isEmphasis : Bullet.isEmphasis mark = true) {opening closing rest : List Char}
    (opens : opening ∈ ticks) (closes : closing ∈ ticks) (apart : IsApart rest) :
    Bullet.nameBetween [mark, mark] (fun text => (after? [mark, mark] text).isSome)
      ([mark, mark] ++ (opening ++ (name ++ (closing ++ ([mark, mark] ++ rest))))) = some name := by
  obtain ⟨left, found⟩ := find?_isClosed path isEmphasis closes apart
  unfold Bullet.nameBetween
  rw [after?_eq_some_iff.mpr rfl]
  dsimp only
  rw [Bullet.skip_append opens (head?_append_of_isPath path (by decide) _)]
  unfold isClosed at found
  rw [found]
  rfl

/-- The label of a link is closed before the target, perhaps with backticks and stars. -/
theorem closesLink_append {closing trail target rest : List Char} (closes : closing ∈ ticks)
    (trails : trail ∈ stars) :
    Bullet.closesLink (closing ++ (trail ++ (']' :: '(' :: (target ++ (')' :: rest))))) = true := by
  have noTick : (trail ++ (']' :: '(' :: (target ++ (')' :: rest)))).head? ≠ some '\x60' := by
    rcases List.mem_pair.mp trails with rfl | rfl <;> simp
  unfold Bullet.closesLink
  rw [Bullet.skip_append closes noTick, Bullet.skip_append trails (by simp)]
  simp

theorem linkedName_append (path : Name.isPath name = true)
    {lead opening closing trail : List Char} (target rest : List Char) (leads : lead ∈ stars)
    (opens : opening ∈ ticks) (closes : closing ∈ ticks) (trails : trail ∈ stars) :
    Bullet.linkedName ('[' :: (lead ++ (opening ++ (name ++ (closing ++ (trail ++
      (']' :: '(' :: (target ++ (')' :: rest))))))))) = some name := by
  have ends : Name.EndsName (closing ++ (trail ++ (']' :: '(' :: (target ++ (')' :: rest))))) := by
    rcases List.mem_pair.mp closes with rfl | rfl
    · rcases List.mem_pair.mp trails with rfl | rfl <;>
        exact Name.endsName_cons (by decide) (by decide)
    · exact Name.endsName_cons (by decide) (by decide)
  have noStar (left : List Char) : (opening ++ (name ++ left)).head? ≠ some '*' := by
    rcases List.mem_pair.mp opens with rfl | rfl
    · exact head?_append_of_isPath path (by decide) left
    · simp
  simp only [Bullet.linkedName]
  rw [Bullet.skip_append leads (noStar _),
    Bullet.skip_append opens (head?_append_of_isPath path (by decide) _),
    Name.takePath?_append path ends]
  dsimp only
  rw [if_pos (closesLink_append closes trails)]

/-- A name with a format is read whole, if nothing but white space follows. -/
theorem moduleName?_of_isFormatted (path : Name.isPath name = true) {marked rest : List Char}
    (formatted : IsFormatted name marked) (apart : IsApart rest) :
    Bullet.moduleName? (marked ++ rest) = some (name, true) := by
  cases formatted with
  | bold opens closes =>
    have found := nameBetween_append path (rfl : Bullet.isEmphasis '*' = true) opens closes apart
    unfold Bullet.moduleName? Bullet.boldName
    simp only [List.append_assoc]
    rw [found]
    rfl
  | underscored opens closes =>
    have found := nameBetween_append path (rfl : Bullet.isEmphasis '_' = true) opens closes apart
    unfold Bullet.moduleName? Bullet.boldName
    simp only [List.append_assoc]
    rw [found]
    rfl
  | coded =>
    have tick : Name.EndsName ('\x60' :: rest) := Name.endsName_cons (by decide) (by decide)
    have found : Bullet.codedName ('\x60' :: (name ++ '\x60' :: rest)) = some name := by
      simp only [Bullet.codedName, Name.takePath?_append path tick]
    unfold Bullet.moduleName?
    rw [List.cons_append, List.append_assoc, List.singleton_append, found]
    rfl
  | linked target leads opens closes trails =>
    have found := linkedName_append path target rest leads opens closes trails
    unfold Bullet.moduleName?
    simp only [List.append_assoc, List.cons_append, List.nil_append]
    rw [found]
    rfl

theorem getLast?_of_isFormatted {marked : List Char} (formatted : IsFormatted name marked) :
    ∀ last ∈ marked.getLast?, isBlank last = false := by
  have ends (front : List Char) (mark : Char) (noBlank : isBlank mark = false) :
      ∀ last ∈ (front ++ [mark]).getLast?, isBlank last = false := by
    intro last member
    rw [List.getLast?_concat] at member
    cases member
    exact noBlank
  cases formatted with
  | @bold opening closing _ _ =>
    have whole := ends (['*', '*'] ++ (opening ++ (name ++ (closing ++ ['*'])))) '*' rfl
    simpa only [List.append_assoc, List.singleton_append] using whole
  | @underscored opening closing _ _ =>
    have whole := ends (['_', '_'] ++ (opening ++ (name ++ (closing ++ ['_'])))) '_' rfl
    simpa only [List.append_assoc, List.singleton_append] using whole
  | coded => exact ends ('\x60' :: name) '\x60' rfl
  | @linked lead opening closing trail target _ _ _ _ =>
    have whole := ends ('[' :: (lead ++ (opening ++ (name ++ (closing ++ (trail ++
      (']' :: '(' :: target))))))) ')' rfl
    simpa only [List.append_assoc, List.cons_append] using whole

theorem head?_of_isFormatted {marked : List Char} (formatted : IsFormatted name marked) :
    ∀ first ∈ marked.head?, isGap first = false := by
  cases formatted <;> (rintro _ ⟨⟩; rfl)

end ModuleName

/-! ### Labels of categories -/

/-- The labels under which the symbols of a kind are listed, in small letters. -/
def SymbolKind.labels : SymbolKind → List String
  | class_ => ["classes", "class"]
  | function => ["functions", "function"]
  | exception => ["exceptions", "exception"]
  | method => ["methods", "method"]
  | unknown => []

/-- A text is a label of a kind, in any letter case. -/
def SymbolKind.IsLabel (kind : SymbolKind) (label : List Char) : Prop :=
  String.ofList (label.map Char.toLower) ∈ kind.labels

instance (kind : SymbolKind) (label : List Char) : Decidable (kind.IsLabel label) :=
  inferInstanceAs (Decidable (_ ∈ _))

namespace Bullet

theorem categoryKind?_eq_some_iff {label : List Char} {kind : SymbolKind}
    (ascii : ∀ character ∈ label, isAscii character = true) :
    categoryKind? label = some kind ↔ kind.IsLabel label := by
  unfold categoryKind? SymbolKind.IsLabel
  rw [lowerString, String.toList_ofList, lower_of_isAscii ascii]
  generalize String.ofList (label.map Char.toLower) = small
  constructor
  · intro found
    split at found <;> cases found <;> simp [SymbolKind.labels]
  · intro member
    cases kind <;>
      simp only [SymbolKind.labels, List.mem_cons, List.not_mem_nil, or_false] at member
    all_goals rcases member with rfl | rfl <;> rfl

/-- A text begins with a label, perhaps between marks of emphasis, and a colon, behind which a mark
of emphasis may be closed. -/
def IsLabelled (content label rest : List Char) : Prop :=
  ∃ lead spaces inner blanks outer gap,
    content = lead ++ (label ++ (spaces ++ (inner ++ (blanks ++
      ':' :: (outer ++ (gap ++ rest)))))) ∧
    (∀ character ∈ lead ++ (inner ++ outer), isEmphasis character = true) ∧
      ∀ character ∈ spaces ++ (blanks ++ gap), isBlank character = true

theorem exists_of_afterColon? {text rest : List Char} (found : afterColon? text = some rest) :
    ∃ inner blanks outer gap, text = inner ++ (blanks ++ ':' :: (outer ++ (gap ++ rest))) ∧
      (∀ character ∈ inner ++ outer, isEmphasis character = true) ∧
        ∀ character ∈ blanks ++ gap, isBlank character = true := by
  unfold afterColon? at found
  split at found
  · rename_i behind shape
    cases found
    refine ⟨text.takeWhile isEmphasis, (text.dropWhile isEmphasis).takeWhile isBlank,
      behind.takeWhile isEmphasis, (behind.dropWhile isEmphasis).takeWhile isBlank, ?_, ?_, ?_⟩
    · rw [List.takeWhile_append_dropWhile, List.takeWhile_append_dropWhile, ← shape,
        List.takeWhile_append_dropWhile, List.takeWhile_append_dropWhile]
    · intro character member
      exact (List.mem_append.mp member).elim (fun own => List.mem_takeWhile_imp own)
        fun own => List.mem_takeWhile_imp own
    · intro character member
      exact (List.mem_append.mp member).elim (fun own => List.mem_takeWhile_imp own)
        fun own => List.mem_takeWhile_imp own
  · cases found

theorem exists_of_labelFrom {text label rest : List Char}
    (found : labelFrom text = some (label, rest)) :
    ∃ behind, text = label ++ behind ∧ afterColon? behind = some rest ∧ label.head? = text.head? ∧
      ∀ character ∈ label, isAscii character = true := by
  have ascii {character : Char} (allowed : (character.isAlpha || character == ' ') = true) :
      isAscii character = true := by
    rcases Bool.or_eq_true_iff.mp allowed with alpha | space
    · exact isAscii_of_isAlpha alpha
    · rw [eq_of_beq space]
      rfl
  fun_induction labelFrom text generalizing label with
  | case1 => cases found
  | case2 character more allowed value colon =>
    cases found
    exact ⟨more, rfl, colon, rfl, by simpa using ascii allowed⟩
  | case3 character more allowed noColon inductionHypothesis =>
    obtain ⟨⟨label, value⟩, known, same⟩ := Option.map_eq_some_iff.mp found
    cases same
    obtain ⟨behind, rfl, colon, _, all⟩ := inductionHypothesis known
    exact ⟨behind, rfl, colon, rfl, List.forall_mem_cons.mpr ⟨ascii allowed, all⟩⟩
  | case4 character more notAllowed => cases found

/-- What is read as the label of a category is written so. -/
theorem isLabelled_of_category? {content found rest : List Char}
    (read : category? content = some (found, rest)) :
    IsLabelled content (trim found) rest ∧ ∀ character ∈ trim found, isAscii character = true := by
  unfold category? at read
  split at read
  · cases read
  · rename_i first more shape
    obtain ⟨alpha, read⟩ := Option.ite_none_right_eq_some.mp read
    obtain ⟨behind, split, colon, begins, ascii⟩ := exists_of_labelFrom read
    obtain ⟨inner, blanks, outer, gap, rfl, emphasis, blank⟩ := exists_of_afterColon? colon
    obtain ⟨front, spaces, found_eq, before, after, _, _⟩ := exists_split_trimBy isBlank found
    have noFront : front = [] := by
      cases front with
      | nil => rfl
      | cons other others =>
        rw [found_eq] at begins
        cases begins
        have noBlank := isBlank_of_isAlpha alpha
        rw [before first List.mem_cons_self] at noBlank
        cases noBlank
    have kept : found = trim found ++ spaces := by
      rw [noFront, List.nil_append] at found_eq
      exact found_eq
    have inFound : ∀ character ∈ trim found, isAscii character = true := by
      intro character member
      refine ascii character ?_
      rw [kept]
      exact List.mem_append_left _ member
    refine ⟨⟨content.takeWhile isEmphasis, spaces, inner, blanks, outer, gap, ?_, ?_, ?_⟩, inFound⟩
    · rw [← List.append_assoc (trim found), ← kept, ← split, ← shape,
        List.takeWhile_append_dropWhile]
    · exact List.forall_mem_append.mpr ⟨fun _ member => List.mem_takeWhile_imp member, emphasis⟩
    · exact List.forall_mem_append.mpr ⟨after, blank⟩

/-! ### Labels that are known -/

theorem isAlpha_of_isLabel {kind : SymbolKind} {label : List Char} (known : kind.IsLabel label) :
    ∀ character ∈ label, character.isAlpha = true := by
  have letters : ∀ text ∈ kind.labels, text.toList.all Char.isAlpha = true := by
    cases kind <;> decide
  intro character member
  have small := List.all_eq_true.mp (letters _ known) character.toLower
  rw [String.toList_ofList] at small
  exact isAlpha_of_isAlpha_toLower (small (List.mem_map_of_mem member))

theorem ne_nil_of_isLabel {kind : SymbolKind} {label : List Char} (known : kind.IsLabel label) :
    label ≠ [] := by
  rintro rfl
  have nonempty : "" ∉ kind.labels := by
    cases kind <;> decide
  exact nonempty known

theorem categoryKind?_of_isLabel {kind : SymbolKind} {label : List Char}
    (known : kind.IsLabel label) : categoryKind? label = some kind :=
  (categoryKind?_eq_some_iff fun character member =>
    isAscii_of_isAlpha (isAlpha_of_isLabel known character member)).mpr known

/-- A class without stars and underscores holds no mark of emphasis. -/
theorem isEmphasis_eq_false {inClass : Char → Bool} (noStar : inClass '*' = false)
    (noScore : inClass '_' = false) {character : Char} (inside : inClass character = true) :
    isEmphasis character = false := by
  refine Bool.eq_false_iff.mpr fun mark => ?_
  rcases Bool.or_eq_true_iff.mp mark with star | score
  · rw [eq_of_beq star, noStar] at inside
    cases inside
  · rw [eq_of_beq score, noScore] at inside
    cases inside

theorem isEmphasis_of_isBlank {character : Char} (blank : isBlank character = true) :
    isEmphasis character = false :=
  isEmphasis_eq_false (by decide) (by decide) blank

theorem isBlank_of_isEmphasis {character : Char} (mark : isEmphasis character = true) :
    isBlank character = false := by
  refine Bool.eq_false_iff.mpr fun blank => ?_
  rw [isEmphasis_of_isBlank blank] at mark
  cases mark

theorem isEmphasis_of_isAlpha {character : Char} (alpha : character.isAlpha = true) :
    isEmphasis character = false :=
  @isEmphasis_eq_false Char.isAlpha (by decide) (by decide) _ alpha

theorem afterColon?_append {inner blanks outer rest : List Char}
    (emphasis : ∀ character ∈ inner ++ outer, isEmphasis character = true)
    (blank : ∀ character ∈ blanks, isBlank character = true)
    (plain : ∀ first ∈ rest.head?, isEmphasis first = false) :
    afterColon? (inner ++ (blanks ++ ':' :: (outer ++ rest))) = some (rest.dropWhile isBlank) := by
  obtain ⟨innerEmphasis, outerEmphasis⟩ := List.forall_mem_append.mp emphasis
  have noEmphasis :
      ∀ first ∈ (blanks ++ ':' :: (outer ++ rest)).head?, isEmphasis first = false := by
    intro first member
    cases blanks with
    | nil =>
      cases member
      rfl
    | cons character more =>
      cases member
      exact isEmphasis_of_isBlank (blank first List.mem_cons_self)
  unfold afterColon?
  rw [List.dropWhile_append_of_pos innerEmphasis, dropWhile_of_head? noEmphasis,
    List.dropWhile_append_of_pos blank, List.dropWhile_cons_of_neg (by decide)]
  show some (((outer ++ rest).dropWhile isEmphasis).dropWhile isBlank) = _
  rw [List.dropWhile_append_of_pos outerEmphasis, dropWhile_of_head? plain]

/-- A letter is neither emphasis nor white space nor a colon. -/
theorem afterColon?_of_isAlpha {first : Char} (alpha : first.isAlpha = true) (rest : List Char) :
    afterColon? (first :: rest) = none := by
  have noColon : first ≠ ':' :=
    ne_of_isWord (isWord_of_isNameStart (isNameStart_of_isAlpha alpha)) (by decide)
  unfold afterColon?
  rw [List.dropWhile_cons_of_neg (by simp [isEmphasis_of_isAlpha alpha]),
    List.dropWhile_cons_of_neg (by simp [isBlank_of_isAlpha alpha])]
  split
  · rename_i shape
    exact absurd (List.cons.inj shape).1 noColon
  · rfl

theorem labelFrom_append {label behind rest : List Char}
    (letters : ∀ character ∈ label, character.isAlpha = true) (nonempty : label ≠ [])
    (colon : afterColon? behind = some rest) :
    labelFrom (label ++ behind) = some (label, rest) := by
  induction label with
  | nil => exact absurd rfl nonempty
  | cons character more inductionHypothesis =>
    obtain ⟨own, others⟩ := List.forall_mem_cons.mp letters
    have allowed : (character.isAlpha || character == ' ') = true := by rw [own, Bool.true_or]
    rw [List.cons_append, labelFrom, if_pos allowed]
    cases more with
    | nil => rw [List.nil_append, colon]
    | cons next rest =>
      have noColon : afterColon? (next :: rest ++ behind) = none :=
        afterColon?_of_isAlpha (others next List.mem_cons_self) _
      rw [noColon, inductionHypothesis others (List.cons_ne_nil _ _)]
      rfl

/-- A label of letters, between marks of emphasis and before a colon, is read with what follows. -/
theorem category?_append {lead label inner blanks outer rest : List Char}
    (emphasis : ∀ character ∈ lead ++ (inner ++ outer), isEmphasis character = true)
    (blank : ∀ character ∈ blanks, isBlank character = true)
    (letters : ∀ character ∈ label, character.isAlpha = true) (nonempty : label ≠ [])
    (plain : ∀ first ∈ rest.head?, isEmphasis first = false) :
    category? (lead ++ (label ++ (inner ++ (blanks ++ ':' :: (outer ++ rest))))) =
      some (label, rest.dropWhile isBlank) := by
  obtain ⟨leadEmphasis, innerEmphasis⟩ := List.forall_mem_append.mp emphasis
  have colon := afterColon?_append innerEmphasis blank plain
  have whole := labelFrom_append letters nonempty colon
  obtain ⟨first, more, rfl⟩ := List.exists_cons_of_ne_nil nonempty
  have alpha := letters first List.mem_cons_self
  unfold category?
  rw [List.dropWhile_append_of_pos leadEmphasis, List.cons_append,
    List.dropWhile_cons_of_neg (by simp [isEmphasis_of_isAlpha alpha])]
  dsimp only
  rw [if_pos alpha]
  exact whole

end Bullet

end LlmTxt

/-
This file says what reading a dotted name takes from a text. If the text begins with a whole
dotted name and goes on with a character that belongs to no name, exactly that name is taken. All
characters of a dotted name are word characters and dots, and it begins and ends with a word
character.
-/

import LlmTxt.Name
import LlmTxt.Proofs.Text.Pieces
import LlmTxt.Proofs.Text.Trim

namespace LlmTxt.Name

open Text

variable {begins : Char → Bool} {characters rest : List Char}

/-! ### What follows the first character -/

theorem pathTail_cons_of_isWord {character : Char} (word : isWord character = true) :
    pathTail begins (character :: rest) =
      (character :: (pathTail begins rest).1, (pathTail begins rest).2) := by
  cases rest with
  | nil => exact if_pos word
  | cons next more => rw [pathTail, if_pos word]

theorem pathTail_dot {next : Char} (allowed : begins next = true) :
    pathTail begins ('.' :: next :: rest) =
      ('.' :: next :: (pathTail begins rest).1, (pathTail begins rest).2) := by
  have noWord : ¬isWord '.' = true := by decide
  rw [pathTail, if_neg noWord, allowed]
  rfl

/-- Nothing of a text belongs to the name before it. -/
def EndsName (rest : List Char) : Prop :=
  ∀ first ∈ rest.head?, isWord first = false ∧ first ≠ '.'

theorem endsName_nil : EndsName [] := by
  rintro first ⟨⟩

theorem endsName_cons {first : Char} (noWord : isWord first = false) (noDot : first ≠ '.') :
    EndsName (first :: rest) := by
  rintro first ⟨⟩
  exact ⟨noWord, noDot⟩

theorem pathTail_of_endsName (ends : EndsName rest) : pathTail begins rest = ([], rest) := by
  fun_cases pathTail begins rest with
  | case1 => rfl
  | case2 character word => simp [(ends character rfl).1] at word
  | case3 character noWord => rfl
  | case4 character next more word => simp [(ends character rfl).1] at word
  | case5 character next more noWord dot => simp [(ends character rfl).2] at dot
  | case6 character next more noWord noDot => rfl

/-- A text that belongs to a name as a whole does so before another text too, of which more may
belong to the name. -/
theorem pathTail_append_of_whole (whole : pathTail begins characters = (characters, []))
    (rest : List Char) :
    pathTail begins (characters ++ rest) =
      (characters ++ (pathTail begins rest).1, (pathTail begins rest).2) := by
  fun_induction pathTail begins characters with
  | case1 => rfl
  | case2 character word => rw [List.singleton_append, pathTail_cons_of_isWord word]; rfl
  | case3 character noWord => cases whole
  | case4 character next more word tail left found inductionHypothesis =>
    cases whole
    rw [List.cons_append, pathTail_cons_of_isWord word, inductionHypothesis found]
    rfl
  | case5 character next more noWord dot tail left found inductionHypothesis =>
    cases whole
    simp only [Bool.and_eq_true, decide_eq_true_eq] at dot
    rw [dot.1, List.cons_append, List.cons_append, pathTail_dot dot.2, inductionHypothesis found]
    rfl
  | case6 character next more noWord noDot => cases whole

theorem pathTail_append (whole : pathTail begins characters = (characters, []))
    (ends : EndsName rest) : pathTail begins (characters ++ rest) = (characters, rest) := by
  rw [pathTail_append_of_whole whole, pathTail_of_endsName ends, List.append_nil]

theorem pathTail_words_append (words : ∀ character ∈ characters, isWord character = true) :
    pathTail begins (characters ++ rest) =
      (characters ++ (pathTail begins rest).1, (pathTail begins rest).2) := by
  induction characters with
  | nil => rfl
  | cons character more inductionHypothesis =>
    rw [List.cons_append, pathTail_cons_of_isWord (words character List.mem_cons_self),
      inductionHypothesis fun other later => words other (List.mem_cons_of_mem _ later)]
    rfl

theorem pathTail_of_isWord (words : ∀ character ∈ characters, isWord character = true) :
    pathTail begins characters = (characters, []) := by
  rw [← List.append_nil characters, pathTail_words_append words]
  rfl

/-- Reading a name loses nothing. -/
theorem pathTail_append_left (begins : Char → Bool) (characters : List Char) :
    (pathTail begins characters).1 ++ (pathTail begins characters).2 = characters := by
  fun_induction pathTail begins characters with
  | case1 => rfl
  | case2 character word => rfl
  | case3 character noWord => rfl
  | case4 character next more word tail left found inductionHypothesis =>
    rw [found] at inductionHypothesis
    exact congrArg (character :: ·) inductionHypothesis
  | case5 character next more noWord dot tail left found inductionHypothesis =>
    rw [found] at inductionHypothesis
    exact congrArg (character :: next :: ·) inductionHypothesis
  | case6 character next more noWord noDot => rfl

theorem isWord_or_eq_dot_of_mem_pathTail
    (letters : ∀ character, begins character = true → isWord character = true) :
    ∀ character ∈ (pathTail begins characters).1, isWord character = true ∨ character = '.' := by
  fun_induction pathTail begins characters with
  | case1 => simp
  | case2 character word => simp [word]
  | case3 character noWord => simp
  | case4 character next more word tail left found inductionHypothesis =>
    rw [found] at inductionHypothesis
    simpa [word] using inductionHypothesis
  | case5 character next more noWord dot tail left found inductionHypothesis =>
    simp only [Bool.and_eq_true, decide_eq_true_eq] at dot
    rw [found] at inductionHypothesis
    simpa [dot.1, letters next dot.2] using inductionHypothesis
  | case6 character next more noWord noDot => simp

/-- A name does not end in a dot. -/
theorem isWord_getLast?_pathTail
    (letters : ∀ character, begins character = true → isWord character = true) {first : Char}
    (word : isWord first = true) :
    ∀ last ∈ (first :: (pathTail begins characters).1).getLast?, isWord last = true := by
  fun_induction pathTail begins characters generalizing first with
  | case1 => simpa using word
  | case2 character own => simpa using own
  | case3 character noWord => simpa using word
  | case4 character next more own tail left found inductionHypothesis =>
    rw [found] at inductionHypothesis
    rw [List.getLast?_cons_cons]
    exact inductionHypothesis own
  | case5 character next more noWord dot tail left found inductionHypothesis =>
    simp only [Bool.and_eq_true, decide_eq_true_eq] at dot
    rw [found] at inductionHypothesis
    rw [List.getLast?_cons_cons, List.getLast?_cons_cons]
    exact inductionHypothesis (letters next dot.2)
  | case6 character next more noWord noDot => simpa using word

/-- Of what belongs to a name, any part at its beginning does, unless it ends in a dot. -/
theorem pathTail_of_isPrefix {part : List Char} (within : part <+: (pathTail begins characters).1)
    (noDot : part.getLast? ≠ some '.') : pathTail begins part = (part, []) := by
  fun_induction pathTail begins characters generalizing part with
  | case1 =>
    rw [List.prefix_nil.mp within]
    rfl
  | case2 character word =>
    rcases List.prefix_cons_iff.mp within with rfl | ⟨more, rfl, further⟩
    · rfl
    · rw [List.prefix_nil.mp further]
      exact if_pos word
  | case3 character noWord =>
    rw [List.prefix_nil.mp within]
    rfl
  | case4 character next rest word tail left found inductionHypothesis =>
    rw [found] at inductionHypothesis
    rcases List.prefix_cons_iff.mp within with rfl | ⟨more, rfl, further⟩
    · rfl
    · have moreNoDot : more.getLast? ≠ some '.' := by
        intro dot
        rw [List.getLast?_cons, dot] at noDot
        exact noDot rfl
      rw [pathTail_cons_of_isWord word, inductionHypothesis further moreNoDot]
  | case5 character next rest noWord dot tail left found inductionHypothesis =>
    simp only [Bool.and_eq_true, decide_eq_true_eq] at dot
    obtain ⟨rfl, allowed⟩ := dot
    rw [found] at inductionHypothesis
    rcases List.prefix_cons_iff.mp within with rfl | ⟨more, rfl, further⟩
    · rfl
    · rcases List.prefix_cons_iff.mp further with rfl | ⟨others, rfl, deeper⟩
      · exact absurd rfl noDot
      · have othersNoDot : others.getLast? ≠ some '.' := by
          intro dot
          rw [List.getLast?_cons_cons, List.getLast?_cons, dot] at noDot
          exact noDot rfl
        rw [pathTail_dot allowed, inductionHypothesis deeper othersNoDot]
  | case6 character next rest noWord noName =>
    rw [List.prefix_nil.mp within]
    rfl

/-! ### Whole names -/

/-- The name that a text begins with is taken. -/
theorem takePathBy_append {first : Char} (begin : begins first = true)
    (whole : pathTail begins characters = (characters, [])) (ends : EndsName rest) :
    takePathBy begins (first :: characters ++ rest) = some (first :: characters, rest) := by
  rw [List.cons_append, takePathBy, if_pos begin, pathTail_append whole ends]

theorem exists_of_isPath (path : isPath characters = true) :
    ∃ first more, characters = first :: more ∧ isNameStart first = true ∧
      pathTail isNameStart more = (more, []) := by
  cases characters with
  | nil => cases path
  | cons first more =>
    have taken : takePath? (first :: more) =
        if isNameStart first then
          some (first :: (pathTail isNameStart more).1, (pathTail isNameStart more).2)
        else none := rfl
    unfold isPath at path
    rw [taken] at path
    by_cases begins : isNameStart first = true
    · rw [if_pos begins] at path
      have kept := pathTail_append_left isNameStart more
      cases split : pathTail isNameStart more with
      | mk tail left =>
        rw [split] at path kept
        cases left with
        | nil =>
          have same : tail = more := (List.append_nil tail).symm.trans kept
          exact ⟨first, more, rfl, begins, same ▸ split⟩
        | cons next rest => cases path
    · rw [if_neg begins] at path
      cases path

/-- A whole name at the beginning of a text is taken if what follows belongs to no name. -/
theorem takePath?_append (path : isPath characters = true) (ends : EndsName rest) :
    takePath? (characters ++ rest) = some (characters, rest) := by
  obtain ⟨first, more, rfl, begins, whole⟩ := exists_of_isPath path
  exact takePathBy_append begins whole ends

theorem isWord_or_eq_dot_of_isPath (path : isPath characters = true) :
    ∀ character ∈ characters, isWord character = true ∨ character = '.' := by
  obtain ⟨first, more, rfl, begins, whole⟩ := exists_of_isPath path
  have tail : ∀ character ∈ (pathTail isNameStart more).1,
      isWord character = true ∨ character = '.' :=
    isWord_or_eq_dot_of_mem_pathTail fun _ => isWord_of_isNameStart
  rw [whole] at tail
  intro character member
  rcases List.mem_cons.mp member with rfl | later
  · exact Or.inl (isWord_of_isNameStart begins)
  · exact tail character later

theorem isWord_head?_of_isPath (path : isPath characters = true) :
    ∀ first ∈ characters.head?, isWord first = true := by
  obtain ⟨first, more, rfl, begins, _⟩ := exists_of_isPath path
  rintro _ ⟨⟩
  exact isWord_of_isNameStart begins

theorem isWord_getLast?_of_isPath (path : isPath characters = true) :
    ∀ last ∈ characters.getLast?, isWord last = true := by
  obtain ⟨first, more, rfl, begins, whole⟩ := exists_of_isPath path
  have tail : ∀ last ∈ (first :: (pathTail isNameStart more).1).getLast?, isWord last = true :=
    isWord_getLast?_pathTail (fun _ => isWord_of_isNameStart) (isWord_of_isNameStart begins)
  rwa [whole] at tail

theorem isPath_cons {first : Char} (begin : isNameStart first = true)
    (whole : pathTail isNameStart characters = (characters, [])) :
    isPath (first :: characters) = true := by
  have taken := takePathBy_append begin whole endsName_nil
  rw [List.append_nil] at taken
  unfold isPath takePath?
  rw [taken]

/-- A dotted name that is taken is a part of the text. -/
theorem append_of_takePath? {text path left : List Char}
    (taken : takePath? text = some (path, left)) : text = path ++ left := by
  cases text with
  | nil => cases taken
  | cons first more =>
    obtain ⟨_, same⟩ := Option.ite_none_right_eq_some.mp taken
    cases same
    rw [List.cons_append, pathTail_append_left]

/-- Of a dotted name that is taken, any part at its beginning is one, unless it ends in a dot. -/
theorem isPath_of_isPrefix {text path left part : List Char}
    (taken : takePath? text = some (path, left)) (within : part <+: path) (nonempty : part ≠ [])
    (noDot : part.getLast? ≠ some '.') : isPath part = true := by
  cases text with
  | nil => cases taken
  | cons first more =>
    obtain ⟨begin, same⟩ := Option.ite_none_right_eq_some.mp taken
    cases same
    obtain ⟨rest, rfl, further⟩ := (List.prefix_cons_iff.mp within).resolve_left nonempty
    refine isPath_cons begin (pathTail_of_isPrefix further ?_)
    intro dot
    rw [List.getLast?_cons, dot] at noDot
    exact noDot rfl

theorem isPath_of_takePath? {text path left : List Char}
    (taken : takePath? text = some (path, left)) : isPath path = true := by
  cases text with
  | nil => cases taken
  | cons first more =>
    obtain ⟨begin, same⟩ := Option.ite_none_right_eq_some.mp taken
    cases same
    refine isPath_of_isPrefix taken (List.prefix_refl _) (List.cons_ne_nil _ _) fun dot => ?_
    have word := isWord_getLast?_pathTail (fun _ => isWord_of_isNameStart)
      (isWord_of_isNameStart begin) '.' dot
    cases word

/-- The dotted names that a text begins with are parts of it. -/
theorem of_mem_pathsOf {text : List Char} {candidate : List Char × List Char}
    (member : candidate ∈ pathsOf text) :
    isPath candidate.1 = true ∧ text = candidate.1 ++ candidate.2 := by
  unfold pathsOf at member
  split at member
  · cases member
  · rename_i path left taken
    obtain ⟨inRange, noDot⟩ := List.mem_filter.mp member
    obtain ⟨dropped, fewer, rfl⟩ := List.mem_map.mp inRange
    have size := List.mem_range.mp fewer
    refine ⟨isPath_of_isPrefix taken (List.take_prefix _ path) ?_ (bne_iff_ne.mp noDot), ?_⟩
    · rw [Ne, List.take_eq_nil_iff, not_or]
      exact ⟨Nat.sub_ne_zero_of_lt size, List.ne_nil_of_length_pos (Nat.zero_lt_of_lt size)⟩
    · rw [append_of_takePath? taken, ← List.append_assoc, List.take_append_drop]

/-- Word characters behind a dotted name belong to it. -/
theorem isPath_append {words : List Char} (path : isPath characters = true)
    (allWords : ∀ character ∈ words, isWord character = true) :
    isPath (characters ++ words) = true := by
  obtain ⟨first, more, rfl, begin, whole⟩ := exists_of_isPath path
  have joined : pathTail isNameStart (more ++ words) = (more ++ words, []) := by
    rw [pathTail_append_of_whole whole, pathTail_of_isWord allWords]
  exact isPath_cons begin joined

theorem ne_nil_of_isPath (path : isPath characters = true) : characters ≠ [] := by
  rintro rfl
  cases path

theorem getLast?_ne_dot_of_isPath (path : isPath characters = true) :
    characters.getLast? ≠ some '.' := by
  intro dot
  have word := isWord_getLast?_of_isPath path '.' dot
  cases word

/-- Of the names that a text begins with, the longer ones come first. -/
theorem pathsOf_append_append {part more : List Char} (path : isPath (part ++ more) = true)
    (nonempty : part ≠ []) (noDot : part.getLast? ≠ some '.') (ends : EndsName rest) :
    ∃ longer others, pathsOf (part ++ (more ++ rest)) =
        longer ++ (part, more ++ rest) :: others ∧
      ∀ candidate ∈ longer, ∃ front back, more = front ++ back ∧ front ≠ [] ∧
        candidate = (part ++ front, back ++ rest) := by
  have range : List.range (part ++ more).length = List.range more.length ++ more.length ::
      (List.range (part.length - 1)).map (more.length + Nat.succ ·) := by
    rw [List.length_append, Nat.add_comm,
      ← Nat.sub_add_cancel (List.length_pos_of_ne_nil nonempty), List.range_add,
      List.range_succ_eq_map, List.map_cons, List.map_map]
    rfl
  have whole : (part ++ more).length - more.length = part.length := by simp
  unfold pathsOf
  rw [← List.append_assoc, takePath?_append path ends]
  dsimp only
  rw [range, List.map_append, List.filter_append, List.map_cons, whole, List.take_left,
    List.drop_left, List.filter_cons_of_pos (by simpa using noDot)]
  refine ⟨_, _, rfl, fun candidate member => ?_⟩
  obtain ⟨dropped, fewer, rfl⟩ := List.mem_map.mp (List.mem_filter.mp member).1
  have kept : (part ++ more).length - dropped = part.length + (more.length - dropped) := by
    rw [List.length_append, Nat.add_sub_assoc (Nat.le_of_lt (List.mem_range.mp fewer))]
  rw [kept, List.take_length_add_append, List.drop_length_add_append]
  refine ⟨_, _, (List.take_append_drop (more.length - dropped) more).symm, ?_, rfl⟩
  have some := Nat.sub_pos_of_lt (List.mem_range.mp fewer)
  rw [Ne, List.take_eq_nil_iff, not_or]
  exact ⟨some.ne', List.ne_nil_of_length_pos (Nat.lt_of_lt_of_le some (Nat.sub_le _ _))⟩

/-- Of the names that a text begins with, the whole name at its beginning comes first. -/
theorem pathsOf_append (path : isPath characters = true) (ends : EndsName rest) :
    ∃ others, pathsOf (characters ++ rest) = (characters, rest) :: others := by
  have whole : isPath (characters ++ []) = true := by rwa [List.append_nil]
  obtain ⟨longer, others, paths, known⟩ :=
    pathsOf_append_append whole (ne_nil_of_isPath path) (getLast?_ne_dot_of_isPath path) ends
  cases longer with
  | nil => exact ⟨others, paths⟩
  | cons candidate more =>
    obtain ⟨front, back, split, filled, _⟩ := known candidate List.mem_cons_self
    exact absurd (List.append_eq_nil_iff.mp split.symm).1 filled

/-! ### Identifiers -/

/-- Whether a text is one identifier: it begins as a name does, and word characters follow. -/
def isIdentifier : List Char → Bool
  | [] => false
  | first :: rest => isNameStart first && rest.all isWord

theorem exists_of_isIdentifier (identifier : isIdentifier characters = true) :
    ∃ first more, characters = first :: more ∧ isNameStart first = true ∧
      ∀ character ∈ more, isWord character = true := by
  cases characters with
  | nil => cases identifier
  | cons first more =>
    obtain ⟨begins, words⟩ := Bool.and_eq_true_iff.mp identifier
    exact ⟨first, more, rfl, begins, List.all_eq_true.mp words⟩

theorem isWord_of_isIdentifier (identifier : isIdentifier characters = true) :
    ∀ character ∈ characters, isWord character = true := by
  obtain ⟨first, more, rfl, begins, words⟩ := exists_of_isIdentifier identifier
  intro character member
  rcases List.mem_cons.mp member with rfl | later
  · exact isWord_of_isNameStart begins
  · exact words character later

theorem not_mem_of_isIdentifier (identifier : isIdentifier characters = true) {other : Char}
    (noWord : isWord other = false) : other ∉ characters := by
  intro member
  rw [isWord_of_isIdentifier identifier other member] at noWord
  cases noWord

/-- An identifier is a dotted name without a dot. -/
theorem isPath_of_isIdentifier (identifier : isIdentifier characters = true) :
    isPath characters = true := by
  obtain ⟨first, more, rfl, begins, words⟩ := exists_of_isIdentifier identifier
  exact isPath_cons begins (pathTail_of_isWord words)

/-- An identifier before a dotted name, with a dot between them, makes a dotted name. -/
theorem isPath_of_isIdentifier_dot {other : List Char}
    (identifier : isIdentifier characters = true) (path : isPath other = true) :
    isPath (characters ++ '.' :: other) = true := by
  obtain ⟨first, more, rfl, begins, words⟩ := exists_of_isIdentifier identifier
  obtain ⟨next, rest, rfl, nextBegins, whole⟩ := exists_of_isPath path
  refine isPath_cons begins ?_
  show pathTail isNameStart (more ++ '.' :: next :: rest) = (more ++ '.' :: next :: rest, [])
  rw [pathTail_words_append words, pathTail_dot nextBegins, whole]

/-! ### The identifiers of a dotted name -/

theorem segments_append_dot {identifier : List Char} (plain : isIdentifier identifier = true)
    (path : List Char) : segments (path ++ '.' :: identifier) = segments path ++ [identifier] := by
  have noDot : '.' ∉ identifier := not_mem_of_isIdentifier plain (by decide)
  unfold segments
  rw [splitAt_append, splitAt_of_notMem noDot]

theorem join_segments (path : List Char) : join (segments path) = path :=
  intercalate_splitAt '.' path

theorem segments_of_isIdentifier (identifier : isIdentifier characters = true) :
    segments characters = [characters] :=
  splitAt_of_notMem (not_mem_of_isIdentifier identifier (by decide))

theorem isIdentifier_concat (identifier : isIdentifier characters = true) {last : Char}
    (word : isWord last = true) : isIdentifier (characters ++ [last]) = true := by
  obtain ⟨first, more, rfl, begins, words⟩ := exists_of_isIdentifier identifier
  refine Bool.and_eq_true_iff.mpr ⟨begins, List.all_eq_true.mpr fun character member => ?_⟩
  rcases List.mem_append.mp member with inMore | isLast
  · exact words character inMore
  · rwa [List.mem_singleton.mp isLast]

/-- What belongs to a name goes on with the identifier before it, or begins another behind each
dot. -/
theorem isIdentifier_of_mem_segments (whole : pathTail isNameStart rest = (rest, []))
    (identifier : isIdentifier characters = true) :
    ∀ part ∈ segments (characters ++ rest), isIdentifier part = true := by
  fun_induction pathTail isNameStart rest generalizing characters with
  | case1 =>
    rw [List.append_nil, segments_of_isIdentifier identifier]
    exact List.forall_mem_singleton.mpr identifier
  | case2 character word =>
    rw [segments_of_isIdentifier (isIdentifier_concat identifier word)]
    exact List.forall_mem_singleton.mpr (isIdentifier_concat identifier word)
  | case3 character noWord => cases whole
  | case4 character next more word tail left found inductionHypothesis =>
    cases whole
    rw [← List.singleton_append, ← List.append_assoc]
    exact inductionHypothesis found (isIdentifier_concat identifier word)
  | case5 character next more noWord dot tail left found inductionHypothesis =>
    cases whole
    simp only [Bool.and_eq_true, decide_eq_true_eq] at dot
    have another : isIdentifier [next] = true := Bool.and_eq_true_iff.mpr ⟨dot.2, rfl⟩
    have cut : segments (characters ++ '.' :: next :: more) = _ :=
      splitAt_append '.' characters (next :: more)
    rw [dot.1, cut, splitAt_of_notMem (not_mem_of_isIdentifier identifier (by decide)),
      List.singleton_append]
    exact List.forall_mem_cons.mpr ⟨identifier, inductionHypothesis found another⟩
  | case6 character next more noWord noDot => cases whole

theorem isPath_join {parts : List (List Char)} (nonempty : parts ≠ [])
    (identifiers : ∀ part ∈ parts, isIdentifier part = true) : isPath (join parts) = true := by
  induction parts with
  | nil => exact absurd rfl nonempty
  | cons part rest inductionHypothesis =>
    obtain ⟨own, others⟩ := List.forall_mem_cons.mp identifiers
    cases rest with
    | nil =>
      rw [join, List.intercalate_singleton]
      exact isPath_of_isIdentifier own
    | cons next more =>
      have further := inductionHypothesis (List.cons_ne_nil next more) others
      rw [join, List.intercalate_cons_cons, List.append_assoc]
      exact isPath_of_isIdentifier_dot own further

/-- A text is a dotted name if all that stands between its dots are identifiers. -/
theorem isPath_iff_segments :
    isPath characters = true ↔ ∀ part ∈ segments characters, isIdentifier part = true := by
  constructor
  · intro path
    obtain ⟨first, more, rfl, begins, whole⟩ := exists_of_isPath path
    have single : isIdentifier [first] = true := Bool.and_eq_true_iff.mpr ⟨begins, rfl⟩
    exact isIdentifier_of_mem_segments whole single
  · intro identifiers
    rw [← join_segments characters]
    exact isPath_join (splitAt_ne_nil '.' characters) identifiers

end LlmTxt.Name

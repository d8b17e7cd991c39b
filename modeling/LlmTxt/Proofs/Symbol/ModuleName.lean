/-
This file reads the name of a module where a document has it: in a bullet of the Index, in bold or
as code, and in the heading of a module section, plain or as code. A bullet gives the name as it
stands between its marks. A heading does not: what it takes for emphasis is dropped at both ends,
and an underscore counts as emphasis even where it belongs to the name.
-/

import LlmTxt.Document.Reading
import LlmTxt.Proofs.Heading
import LlmTxt.Proofs.Outline.Bullets

namespace LlmTxt

open Text

/-! ### The name in a bullet -/

/-- A dash, a space and a text without white space at its ends are a bullet of this text. -/
theorem Bullet.ofLine?_dash {content : List Char}
    (begins : ∀ first ∈ content.head?, isGap first = false)
    (ends : ∀ last ∈ content.getLast?, isBlank last = false) :
    Bullet.ofLine? ('-' :: ' ' :: content) = some ⟨0, content⟩ := by
  have shape : Bullet.ofLine? ('-' :: ' ' :: content) =
      some ⟨0, dropRightWhile isBlank (content.dropWhile isGap)⟩ := rfl
  rw [shape, dropWhile_of_head? begins, dropRightWhile_of_getLast? ends]

namespace ModuleName

variable {name : List Char} (path : Name.isPath name = true)

/-- A name in bold. -/
def bold (name : List Char) : List Char :=
  "**".toList ++ (name ++ "**".toList)

/-- A name written as code. -/
def coded (name : List Char) : List Char :=
  '\x60' :: (name ++ ['\x60'])

/-- The bullets by which an Index lists a module. -/
def bullets (name : List Char) : List (List Char) :=
  ["- ".toList ++ bold name, "- ".toList ++ coded name]

theorem isAllBlank_of_mem {name line : List Char} (member : line ∈ bullets name) :
    isAllBlank line = false := by
  rcases List.mem_pair.mp member with rfl | rfl <;> rfl

theorem bold_ends (name : List Char) :
    ∀ last ∈ (bold name).getLast?, isBlank last = false := by
  intro last member
  rw [bold, ← List.append_assoc, getLast?_append_of_ne_nil _ (by decide)] at member
  cases member
  rfl

theorem coded_ne_nil (name : List Char) : coded name ≠ [] :=
  List.cons_ne_nil _ _

theorem coded_ends (name : List Char) : (coded name).getLast? = some '\x60' := by
  rw [coded, ← List.cons_append, getLast?_append_of_ne_nil _ (by decide)]
  rfl

include path

theorem isBlank_of_mem {character : Char} (member : character ∈ name) :
    isBlank character = false := by
  rcases Name.isWord_or_eq_dot_of_isPath path character member with word | rfl
  · exact isBlank_of_isWord word
  · rfl

/-- The name in bold is the whole name. -/
theorem moduleName?_bold : Bullet.moduleName? (bold name) = some (name, true) := by
  have formatted : IsFormatted name (bold name) :=
    .bold nil_mem_ticks nil_mem_ticks
  have whole := moduleName?_of_isFormatted path formatted isApart_nil
  rwa [List.append_nil] at whole

theorem moduleName?_coded : Bullet.moduleName? (coded name) = some (name, true) := by
  have whole := moduleName?_of_isFormatted path .coded isApart_nil
  rwa [List.append_nil] at whole

/-- The bullet of a module is read as such, without an indentation, and gives the whole name. -/
theorem exists_bullet {line : List Char} (member : line ∈ bullets name) :
    ∃ content, Bullet.ofLine? line = some ⟨0, content⟩ ∧
      Bullet.moduleName? content = some (name, true) := by
  rcases List.mem_pair.mp member with rfl | rfl
  · refine ⟨bold name, ?_, moduleName?_bold path⟩
    show Bullet.ofLine? ('-' :: ' ' :: bold name) = some ⟨0, bold name⟩
    exact Bullet.ofLine?_dash (by rintro _ ⟨⟩; rfl) (bold_ends name)
  · refine ⟨coded name, ?_, moduleName?_coded path⟩
    show Bullet.ofLine? ('-' :: ' ' :: coded name) = some ⟨0, coded name⟩
    refine Bullet.ofLine?_dash (by rintro _ ⟨⟩; rfl) ?_
    rw [coded_ends]
    rintro _ ⟨⟩
    rfl

omit path

/-! ### The name in a heading -/

/-- The titles that the heading of a module section can have. -/
def titles (name : List Char) : List (List Char) :=
  ["Module: ".toList ++ name, "Module: ".toList ++ coded name]

/-- A name without the underscores at its ends. -/
def unscored (name : List Char) : List Char :=
  trimBy (· == '_') name

/-- A name that neither begins nor ends with an underscore stays as it is. -/
theorem unscored_eq_self (begins : name.head? ≠ some '_') (ends : name.getLast? ≠ some '_') :
    unscored name = name := by
  refine trimBy_of_ends ?_ ?_
  · rintro first member
    exact beq_eq_false_iff_ne.mpr fun same => begins (same ▸ member)
  · rintro last member
    exact beq_eq_false_iff_ne.mpr fun same => ends (same ▸ member)

theorem unscored_eq_self_iff :
    unscored name = name ↔ name.head? ≠ some '_' ∧ name.getLast? ≠ some '_' := by
  refine ⟨fun same => ?_, fun ends => unscored_eq_self ends.1 ends.2⟩
  obtain ⟨_, _, _, _, _, begins, ends⟩ := exists_split_trimBy (· == '_') name
  rw [show trimBy (· == '_') name = name from same] at begins ends
  exact ⟨fun first => absurd (begins '_' first) (by decide),
    fun last => absurd (ends '_' last) (by decide)⟩

include path

theorem isTitle_of_mem {title : List Char} (member : title ∈ titles name) :
    Heading.IsTitle title := by
  have oneLine : '\n' ∉ name := by
    intro feed
    have noBlank := isBlank_of_mem path feed
    cases noBlank
  rcases List.mem_pair.mp member with rfl | rfl
  · refine ⟨by rintro _ ⟨⟩; rfl, ?_, by simp, by simpa using oneLine⟩
    intro last found
    obtain ⟨_, _, rfl, _⟩ := Name.exists_of_isPath path
    rw [getLast?_append_of_ne_nil _ (List.cons_ne_nil _ _)] at found
    have word := Name.isWord_getLast?_of_isPath path last found
    exact ⟨isBlank_of_isWord word, ne_of_isWord word (by decide)⟩
  · refine ⟨by rintro _ ⟨⟩; rfl, ?_, by simp, by simpa [coded] using oneLine⟩
    rw [getLast?_append_of_ne_nil _ (coded_ne_nil name), coded_ends]
    rintro _ ⟨⟩
    exact ⟨rfl, by decide⟩

theorem isDecoration_of_mem {character : Char} (member : character ∈ name) :
    SectionKind.isDecoration character = (character == '_') := by
  rcases Name.isWord_or_eq_dot_of_isPath path character member with word | rfl
  · have noStar := beq_false_of_ne (ne_of_isWord word (by decide : isWord '*' = false))
    have noTick := beq_false_of_ne (ne_of_isWord word (by decide : isWord '\x60' = false))
    rw [SectionKind.isDecoration, noStar, noTick, Bool.false_or, Bool.or_false]
  · rfl

theorem isEmphasis_of_mem {character : Char} (member : character ∈ name) :
    (character == '*' || character == '_') = (character == '_') := by
  rcases Name.isWord_or_eq_dot_of_isPath path character member with word | rfl
  · have noStar := beq_false_of_ne (ne_of_isWord word (by decide : isWord '*' = false))
    rw [noStar, Bool.false_or]
  · rfl

/-- Without white space in it, a part of a name has none to be trimmed. -/
theorem trim_of_subset {part : List Char} (subset : part ⊆ name) : trim part = part :=
  trimBy_of_ends (fun _ member => isBlank_of_mem path (subset (List.mem_of_head? member)))
    fun _ member => isBlank_of_mem path (subset (List.mem_of_getLast? member))

theorem unscored_split : ∃ front back, name = front ++ (unscored name ++ back) ∧
    (∀ character ∈ front, SectionKind.isDecoration character = true) ∧
    (∀ character ∈ back, SectionKind.isDecoration character = true) ∧
    (∀ first ∈ (unscored name).head?, SectionKind.isDecoration first = false) ∧
    ∀ last ∈ (unscored name).getLast?, SectionKind.isDecoration last = false := by
  obtain ⟨front, back, split, before, behind, begins, ends⟩ :=
    exists_split_trimBy (· == '_') name
  have inName {character : Char} (member : character ∈ front ++ (unscored name ++ back)) :
      character ∈ name := split ▸ member
  refine ⟨front, back, split, ?_, ?_, ?_, ?_⟩
  · intro character member
    rw [isDecoration_of_mem path (inName (by simp [member]))]
    exact before character member
  · intro character member
    rw [isDecoration_of_mem path (inName (by simp [member]))]
    exact behind character member
  · intro first member
    rw [isDecoration_of_mem path (inName (by simp [List.mem_of_head? member]))]
    exact begins first member
  · intro last member
    rw [isDecoration_of_mem path (inName (by simp [List.mem_of_getLast? member]))]
    exact ends last member

theorem cleanModuleName_of_trimBy {given : List Char} (plain : trim given = given)
    (bare : trimBy SectionKind.isDecoration given = unscored name) :
    cleanModuleName given = unscored name := by
  obtain ⟨front, back, split, _⟩ := unscored_split path
  have subset : unscored name ⊆ name := by
    intro character member
    rw [split]
    simp [member]
  rw [cleanModuleName, plain, bare, trim_of_subset path subset]

theorem cleanModuleName_coded : cleanModuleName (coded name) = unscored name := by
  obtain ⟨front, back, split, before, behind, begins, ends⟩ := unscored_split path
  have written : coded name = ('\x60' :: front) ++ (unscored name ++ (back ++ ['\x60'])) := by
    refine (congrArg coded split).trans ?_
    simp [coded]
  refine cleanModuleName_of_trimBy path (trimBy_of_ends (by rintro _ ⟨⟩; rfl) ?_) ?_
  · rw [coded_ends]
    rintro _ ⟨⟩
    rfl
  · rw [written]
    refine trimBy_of_split ?_ ?_ begins ends
    · exact List.forall_mem_cons.mpr ⟨rfl, before⟩
    · intro character member
      rcases List.mem_append.mp member with inBack | last
      · exact behind character inBack
      · rw [List.mem_singleton.mp last]
        rfl

omit path in
/-- What stands behind the word and the colon is the name, if a title begins so. -/
theorem moduleOf?_of_bare {title rest : List Char}
    (bare : trimBy (fun character => character == '*' || character == '_') (trim title) =
      "Module: ".toList ++ rest)
    (begins : ∀ first ∈ rest.head?, isBlank first = false) : moduleOf? title = some rest := by
  have follows : afterFolded? "module".toList ("Module: ".toList ++ rest) =
      some (':' :: ' ' :: rest) := rfl
  have whole : (':' :: ' ' :: rest).dropWhile isBlank = ':' :: ' ' :: rest :=
    List.dropWhile_cons_of_neg (by decide)
  unfold moduleOf?
  dsimp only
  rw [bare, follows]
  dsimp only
  rw [whole]
  show some ((' ' :: rest).dropWhile isBlank) = some rest
  rw [List.dropWhile_cons_of_pos (by decide), dropWhile_of_head? begins]

/-- What the heading of a module section leaves of the name of the module: underscores at its ends
are dropped. -/
theorem exists_moduleOf? {title : List Char} (member : title ∈ titles name) :
    ∃ given, moduleOf? title = some given ∧ cleanModuleName given = unscored name := by
  have plain := (isTitle_of_mem path member).trim_eq
  rcases List.mem_pair.mp member with rfl | rfl
  · obtain ⟨back, split, _⟩ := exists_split_dropRightWhile (· == '_') name
    have subset : dropRightWhile (· == '_') name ⊆ name := by
      intro character inKept
      rw [split]
      exact List.mem_append_left _ inKept
    refine ⟨dropRightWhile (· == '_') name, moduleOf?_of_bare ?_ ?_, ?_⟩
    · rw [plain, trimBy, dropWhile_of_head? (by rintro _ ⟨⟩; rfl),
        dropRightWhile_append_of_ends (by rintro _ ⟨⟩; rfl),
        dropRightWhile_congr fun _ => isEmphasis_of_mem path]
    · exact fun _ found => isBlank_of_mem path (subset (List.mem_of_head? found))
    · refine cleanModuleName_of_trimBy path (trim_of_subset path subset) ?_
      rw [trimBy_congr fun _ inKept => isDecoration_of_mem path (subset inKept),
        trimBy_dropRightWhile]
      rfl
  · refine ⟨coded name, moduleOf?_of_bare ?_ (by rintro _ ⟨⟩; rfl), cleanModuleName_coded path⟩
    rw [plain]
    refine trimBy_of_ends (by rintro _ ⟨⟩; rfl) ?_
    rw [getLast?_append_of_ne_nil _ (coded_ne_nil name), coded_ends]
    rintro _ ⟨⟩
    rfl

/-- The heading of a module begins a module section at the second level, and at the third one under
the module sections. -/
theorem classify_of_mem {title : List Char} (member : title ∈ titles name) {reading : Reading}
    {level : Nat} (stands : level = 2 ∨ level = 3 ∧ reading.inModules = true) :
    reading.classify level title =
      some (.moduleSection, some (String.ofList (unscored name))) := by
  obtain ⟨given, named, clean⟩ := exists_moduleOf? path member
  have declared : (moduleOf? title).map (fun name => String.ofList (cleanModuleName name)) =
      some (String.ofList (unscored name)) := by
    rw [named, Option.map_some, clean]
  unfold Reading.classify
  rw [declared]
  rcases stands with rfl | ⟨rfl, inside⟩
  · rfl
  · rw [inside]
    rfl

end ModuleName

end LlmTxt

/-
This file describes the lines of a frontmatter block that give a key a value, and shows what is made
of them. One scan of the block recovers values and another one notes lines, and both keep what the
first line of a key says. What the block holds in the end is the trimmed text of each key.
-/

import LlmTxt.Frontmatter
import LlmTxt.Proofs.Text.Trim

namespace LlmTxt

open Text

/-! ### Lines that give a key a value -/

namespace Frontmatter

/-- Whether a character may stand in a key behind its first one. -/
def isKeyCharacter (character : Char) : Bool :=
  isWord character || character == '-'

/-- A key begins like a name, and word characters and dashes follow. -/
def IsKey (key : List Char) : Prop :=
  ∃ first rest, key = first :: rest ∧ isNameStart first = true ∧
    ∀ character ∈ rest, isKeyCharacter character = true

theorem isKeyCharacter_of_isBlank {character : Char} (blank : isBlank character = true) :
    isKeyCharacter character = false := by
  have noDash : (character == '-') = false := by
    refine beq_false_of_ne ?_
    rintro rfl
    revert blank
    decide
  rw [isKeyCharacter, isWord_of_isBlank blank, noDash, Bool.or_false]

theorem keyLine?_of_isNameStart {first : Char} (begins : isNameStart first = true)
    (rest : List Char) :
    keyLine? (first :: rest) =
      match (rest.dropWhile isKeyCharacter).dropWhile isBlank with
      | ':' :: value => some (first :: rest.takeWhile isKeyCharacter, value)
      | _ => none := by
  rw [keyLine?, if_pos begins]
  rfl

/-- A line begins with a key and a colon if only blanks stand between the two. -/
theorem keyLine?_eq_some_iff {characters key rest : List Char} :
    keyLine? characters = some (key, rest) ↔
      IsKey key ∧ ∃ gap, (∀ character ∈ gap, isBlank character = true) ∧
        characters = key ++ (gap ++ ':' :: rest) := by
  constructor
  · intro found
    cases characters with
    | nil => cases found
    | cons first others =>
      by_cases begins : isNameStart first = true
      · rw [keyLine?_of_isNameStart begins] at found
        split at found
        · rename_i value colon
          cases found
          refine ⟨⟨first, _, rfl, begins, fun _ => List.mem_takeWhile_imp⟩,
            (others.dropWhile isKeyCharacter).takeWhile isBlank,
            fun _ => List.mem_takeWhile_imp, ?_⟩
          rw [← colon, List.takeWhile_append_dropWhile, List.cons_append,
            List.takeWhile_append_dropWhile]
        · cases found
      · rw [keyLine?, if_neg begins] at found
        cases found
  · rintro ⟨⟨first, others, rfl, begins, word⟩, gap, blank, rfl⟩
    have stops : ∀ next ∈ (gap ++ ':' :: rest).head?, isKeyCharacter next = false := by
      cases gap with
      | nil =>
        rintro next ⟨⟩
        decide
      | cons next _ =>
        rintro _ ⟨⟩
        exact isKeyCharacter_of_isBlank (blank next List.mem_cons_self)
    have behind : (others ++ (gap ++ ':' :: rest)).dropWhile isKeyCharacter =
        gap ++ ':' :: rest := by
      rw [List.dropWhile_append_of_pos word, dropWhile_of_head? stops]
    have within : (others ++ (gap ++ ':' :: rest)).takeWhile isKeyCharacter = others := by
      have parts := List.takeWhile_append_dropWhile
        (p := isKeyCharacter) (l := others ++ (gap ++ ':' :: rest))
      rw [behind] at parts
      exact List.append_cancel_right parts
    have colon : (gap ++ ':' :: rest).dropWhile isBlank = ':' :: rest := by
      rw [List.dropWhile_append_of_pos blank]
      exact List.dropWhile_cons_of_neg (by decide)
    rw [List.cons_append, keyLine?_of_isNameStart begins, behind, within, colon]
    rfl

end Frontmatter

namespace Line

/-- A line gives a key a value: it begins with the key, only blanks stand between the key and a
colon, and the value is what is behind the colon, without the blanks around it. -/
structure Gives (line : Line) (key value : String) : Prop where
  isKey : Frontmatter.IsKey key.toList
  written : ∃ gap rest, (∀ character ∈ gap, isBlank character = true) ∧
    line.characters = key.toList ++ (gap ++ ':' :: rest) ∧ value = String.ofList (trim rest)

/-- A line gives a key some value. -/
def BeginsWith (line : Line) (key : String) : Prop :=
  ∃ value, line.Gives key value

/-- The key that a line begins with, and the value that it gives it. -/
def given? (line : Line) : Option (String × String) :=
  (Frontmatter.keyLine? line.characters).map fun entry =>
    (String.ofList entry.1, String.ofList (trim entry.2))

variable {line : Line} {key value other : String}

theorem given?_eq_some_iff : line.given? = some (key, value) ↔ line.Gives key value := by
  unfold given?
  rw [Option.map_eq_some_iff]
  constructor
  · rintro ⟨⟨name, rest⟩, found, same⟩
    obtain ⟨isKey, gap, blank, written⟩ := Frontmatter.keyLine?_eq_some_iff.mp found
    obtain ⟨rfl, rfl⟩ := Prod.mk.inj same
    exact ⟨by rwa [String.toList_ofList], gap, rest, blank, by rwa [String.toList_ofList], rfl⟩
  · rintro ⟨isKey, gap, rest, blank, written, rfl⟩
    refine ⟨(key.toList, rest), Frontmatter.keyLine?_eq_some_iff.mpr ⟨isKey, gap, blank, written⟩,
      ?_⟩
    rw [String.ofList_toList]

theorem Gives.unique (given : line.Gives key value) (again : line.Gives key other) :
    value = other := by
  have same := (given?_eq_some_iff.mpr given).symm.trans (given?_eq_some_iff.mpr again)
  exact (Prod.mk.inj (Option.some.inj same)).2

/-- A value has no blanks around it. -/
theorem Gives.trim_eq (given : line.Gives key value) :
    String.ofList (trim value.toList) = value := by
  obtain ⟨_, gap, rest, _, _, rfl⟩ := given
  rw [String.toList_ofList]
  exact congrArg String.ofList (trimBy_trimBy isBlank rest)

end Line

namespace Frontmatter

variable {body : List Line} {line : Line} {key value : String}

/-- The first line of a block that begins with a key. -/
structure IsFirst (body : List Line) (line : Line) (key value : String) : Prop where
  gives : line.Gives key value
  cut : ∃ before after, body = before ++ line :: after ∧
    ∀ earlier ∈ before, ¬ earlier.BeginsWith key

/-- The last line of a block that begins with a key. -/
structure IsLast (body : List Line) (line : Line) (key value : String) : Prop where
  gives : line.Gives key value
  cut : ∃ before after, body = before ++ line :: after ∧
    ∀ later ∈ after, ¬ later.BeginsWith key

theorem IsFirst.mem (first : IsFirst body line key value) : line ∈ body := by
  obtain ⟨before, after, rfl, _⟩ := first.cut
  simp

/-- A key that a line begins with has a first line. -/
theorem exists_isFirst (member : line ∈ body) (begins : line.BeginsWith key) :
    ∃ first value, IsFirst body first key value := by
  induction body with
  | nil => cases member
  | cons head rest inductionHypothesis =>
    by_cases own : head.BeginsWith key
    · obtain ⟨value, gives⟩ := own
      exact ⟨head, value, gives, [], rest, rfl, by simp⟩
    · have later : line ∈ rest := by
        rcases List.mem_cons.mp member with rfl | later
        · exact absurd begins own
        · exact later
      obtain ⟨first, value, gives, before, after, rfl, none⟩ := inductionHypothesis later
      exact ⟨first, value, gives, head :: before, after, rfl, List.forall_mem_cons.mpr ⟨own, none⟩⟩

/-! ### The two scans of a block -/

section Scan

variable {Value : Type}

/-- The keys that lines begin with, each with what is kept of its line. -/
def scan (keep : Line → String → Value) (body : List Line) : List (String × Value) :=
  body.filterMap fun line => line.given?.map fun entry => (entry.1, keep line entry.2)

theorem lookup_insertNew (key name : String) (value : Value) (pairs : List (String × Value)) :
    (insertNew name value pairs).lookup key = (pairs.lookup key).or ([(name, value)].lookup key) := by
  unfold insertNew
  split
  · rename_i known
    by_cases same : key = name
    · obtain ⟨old, found⟩ := Option.isSome_iff_exists.mp known
      rw [same, found, Option.some_or]
    · rw [List.lookup_cons, beq_false_of_ne same]
      exact Option.or_none.symm
  · exact List.lookup_append

/-- Adds pairs one by one, each unless its key is there. -/
def insertAll (known entries : List (String × Value)) : List (String × Value) :=
  entries.foldl (fun known entry => insertNew entry.1 entry.2 known) known

/-- Pairs that are added count only where their key is not known before. -/
theorem lookup_insertAll (key : String) (known entries : List (String × Value)) :
    (insertAll known entries).lookup key = (known.lookup key).or (entries.lookup key) := by
  induction entries generalizing known with
  | nil => exact Option.or_none.symm
  | cons entry rest inductionHypothesis =>
    have step : insertAll known (entry :: rest) =
        insertAll (insertNew entry.1 entry.2 known) rest := rfl
    rw [step, inductionHypothesis, lookup_insertNew, Option.or_assoc, ← List.lookup_append]
    rfl

theorem mem_of_mem_insertNew {key : String} {value : Value} {pairs : List (String × Value)}
    {pair : String × Value} (member : pair ∈ insertNew key value pairs) :
    pair ∈ pairs ∨ pair = (key, value) := by
  unfold insertNew at member
  split at member
  · exact Or.inl member
  · rcases List.mem_append.mp member with earlier | last
    · exact Or.inl earlier
    · exact Or.inr (List.mem_singleton.mp last)

theorem mem_of_mem_insertAll {known entries : List (String × Value)} {pair : String × Value}
    (member : pair ∈ insertAll known entries) : pair ∈ known ∨ pair ∈ entries := by
  induction entries generalizing known with
  | nil => exact Or.inl member
  | cons entry rest inductionHypothesis =>
    rcases inductionHypothesis member with earlier | later
    · rcases mem_of_mem_insertNew earlier with old | rfl
      · exact Or.inl old
      · exact Or.inr List.mem_cons_self
    · exact Or.inr (List.mem_cons_of_mem _ later)

theorem recover_eq_insertAll (body : List Line) :
    recover (body.map (·.characters)) = insertAll [] (scan (fun _ value => value) body) := by
  unfold recover insertAll scan Line.given?
  rw [List.foldl_map, List.foldl_filterMap]
  congr
  funext known line
  cases keyLine? line.characters <;> rfl

theorem linesOfKeys_eq_insertAll (body : List Line) :
    linesOfKeys body = insertAll [] (scan (fun line _ => line.number) body) := by
  unfold linesOfKeys insertAll scan Line.given?
  rw [List.foldl_filterMap]
  congr
  funext known line
  cases keyLine? line.characters <;> rfl

theorem lookup_recover (body : List Line) (key : String) :
    (recover (body.map (·.characters))).lookup key =
      (scan (fun _ value => value) body).lookup key := by
  rw [recover_eq_insertAll, lookup_insertAll]
  rfl

theorem mem_scan {keep : Line → String → Value} {entry : String × Value} :
    entry ∈ scan keep body ↔
      ∃ line ∈ body, ∃ value, line.Gives entry.1 value ∧ entry.2 = keep line value := by
  unfold scan
  simp only [List.mem_filterMap, Option.map_eq_some_iff, ← Line.given?_eq_some_iff]
  constructor
  · rintro ⟨line, member, ⟨key, value⟩, given, rfl⟩
    exact ⟨line, member, value, given, rfl⟩
  · rintro ⟨line, member, value, given, kept⟩
    exact ⟨line, member, (entry.1, value), given, Prod.ext rfl kept.symm⟩

/-- A scan finds nothing for the keys that no line begins with. -/
theorem lookup_scan_eq_none {keep : Line → String → Value}
    (without : ∀ line ∈ body, ¬ line.BeginsWith key) : (scan keep body).lookup key = none := by
  refine List.lookup_eq_none_iff.mpr fun entry member => bne_iff_ne.mpr ?_
  rintro rfl
  obtain ⟨line, inBody, value, gives, _⟩ := mem_scan.mp member
  exact without line inBody ⟨value, gives⟩

/-- What a scan finds for a key is what is kept of its first line. -/
theorem IsFirst.lookup_scan (first : IsFirst body line key value)
    (keep : Line → String → Value) : (scan keep body).lookup key = some (keep line value) := by
  obtain ⟨gives, before, after, rfl, without⟩ := first
  have own : scan keep (before ++ line :: after) =
      scan keep before ++ (key, keep line value) :: scan keep after := by
    unfold scan
    rw [List.filterMap_append, List.filterMap_cons_some]
    rw [Line.given?_eq_some_iff.mpr gives]
    rfl
  rw [own, List.lookup_append, lookup_scan_eq_none without, List.lookup_cons_self]
  rfl

end Scan

/-- The line of a key is the first line that begins with it. -/
theorem IsFirst.lookup_linesOfKeys (first : IsFirst body line key value) :
    (linesOfKeys body).lookup key = some line.number := by
  rw [linesOfKeys_eq_insertAll, lookup_insertAll, first.lookup_scan]
  rfl

/-- A line that is noted for a key is one of the block. -/
theorem exists_of_mem_linesOfKeys {entry : String × Nat} (member : entry ∈ linesOfKeys body) :
    ∃ line ∈ body, line.number = entry.2 := by
  rw [linesOfKeys_eq_insertAll] at member
  have inScan := (mem_of_mem_insertAll member).resolve_left List.not_mem_nil
  obtain ⟨line, inBody, _, _, same⟩ := mem_scan.mp inScan
  exact ⟨line, inBody, same.symm⟩

/-! ### What a frontmatter keeps of the pairs -/

variable {pairs : List (String × Yaml.Value)} {content : String}

/-- Keys that all hold texts. -/
def textPairs (entries : List (String × String)) : List (String × Yaml.Value) :=
  entries.map fun entry => (entry.1, .text entry.2)

theorem lookup_textPairs (entries : List (String × String)) (key : String) :
    (textPairs entries).lookup key = (entries.lookup key).map Yaml.Value.text := by
  induction entries with
  | nil => rfl
  | cons entry rest inductionHypothesis =>
    obtain ⟨name, content⟩ := entry
    change List.lookup key ((name, Yaml.Value.text content) :: textPairs rest) = _
    rw [List.lookup_cons, List.lookup_cons, inductionHypothesis]
    split <;> rfl

theorem invalidOf_textPairs (entries : List (String × String)) :
    invalidOf (textPairs entries) = [] := by
  refine List.filterMap_eq_nil_iff.mpr fun pair member => ?_
  obtain ⟨entry, _, rfl⟩ := List.mem_map.mp member
  rfl

section Kept

variable {Value Kept : Type} {keep : String × Value → Option (String × Kept)}
  {pairs : List (String × Value)} (same : ∀ pair kept, keep pair = some kept → kept.1 = pair.1)

include same

theorem lookup_filterMap_eq_none (absent : pairs.lookup key = none) :
    (pairs.filterMap keep).lookup key = none := by
  refine List.lookup_eq_none_iff.mpr fun entry member => bne_iff_ne.mpr ?_
  obtain ⟨pair, inPairs, made⟩ := List.mem_filterMap.mp member
  rw [same pair entry made]
  exact bne_iff_ne.mp (List.lookup_eq_none_iff.mp absent pair inPairs)

/-- What is made of the first pair of a key is found under the key. -/
theorem lookup_filterMap {value : Value} {kept : Kept} (found : pairs.lookup key = some value)
    (keeps : keep (key, value) = some (key, kept)) :
    (pairs.filterMap keep).lookup key = some kept := by
  obtain ⟨before, after, rfl, other⟩ := List.lookup_eq_some_iff.mp found
  have nothing := lookup_filterMap_eq_none same (List.lookup_eq_none_iff.mpr other)
  rw [List.filterMap_append, List.filterMap_cons_some keeps, List.lookup_append, nothing,
    List.lookup_cons_self]
  rfl

end Kept

/-- The entry that a pair becomes: the trimmed text of a recognised key. -/
def entry? (pair : String × Yaml.Value) : Option (String × String) :=
  match pair.2 with
  | .text content =>
    if recognizedKeys.contains pair.1 then some (pair.1, String.ofList (trim content.toList))
    else none
  | _ => none

theorem fst_of_entry?_eq_some (pair : String × Yaml.Value) (kept : String × String)
    (made : entry? pair = some kept) : kept.1 = pair.1 := by
  unfold entry? at made
  split at made
  · split at made
    · rw [← Option.some.inj made]
    · cases made
  · cases made

theorem lookup_entriesOf_eq_none (absent : pairs.lookup key = none) :
    (entriesOf pairs).lookup key = none :=
  lookup_filterMap_eq_none fst_of_entry?_eq_some absent

theorem lookup_entriesOf (recognized : key ∈ recognizedKeys)
    (found : pairs.lookup key = some (.text content)) :
    (entriesOf pairs).lookup key = some (String.ofList (trim content.toList)) :=
  lookup_filterMap fst_of_entry?_eq_some found (if_pos (List.contains_iff_mem.mpr recognized))

theorem lookup_extraOf (other : key ∉ recognizedKeys) {value : Yaml.Value}
    (found : pairs.lookup key = some value) : (extraOf pairs).lookup key = some value := by
  unfold extraOf
  rw [← List.filterMap_eq_filter]
  refine lookup_filterMap ?_ found ?_
  · intro pair kept made
    rw [← (Option.guard_eq_some_iff.mp made).1]
  · refine Option.guard_eq_some_iff.mpr ⟨rfl, ?_⟩
    simpa using other

/-! ### What a block is read as -/

variable {closing : Nat} {frontmatter : Frontmatter}

/-- The frontmatter of a block with some content. -/
def Content.toFrontmatter (content : Content) (body : List Line) (closing : Nat) : Frontmatter where
  entries := entriesOf content.pairs
  extra := extraOf content.pairs
  invalid := invalidOf content.pairs
  keyLines := linesOfKeys body
  span := ⟨1, closing, some 0⟩
  fault := content.fault
  faultLine := content.line.map fun line => min (line + 2) (max (closing - 1) 1)

/-- What YAML makes of the lines of a block. -/
def load (body : List Line) : Except Yaml.Failure (Option Yaml.Value) :=
  Yaml.Value.ofText? (['\n'].intercalate (body.map (·.characters)))

theorem ofLines_eq_ok_iff_content :
    ofLines body closing = .ok frontmatter ↔
      ∃ content, contentOf (body.map (·.characters)) (load body) = .ok content ∧
        content.toFrontmatter body closing = frontmatter := by
  unfold ofLines load
  dsimp only
  cases contentOf (body.map (·.characters))
      (Yaml.Value.ofText? (['\n'].intercalate (body.map (·.characters)))) with
  | error failure => simp [bind, Except.bind]
  | ok content =>
    simp only [bind, Except.bind, pure, Except.pure, Except.ok.injEq, exists_eq_left']
    rfl

end Frontmatter

end LlmTxt

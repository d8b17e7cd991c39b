/-
This file shows that allowing more names takes references away and does nothing else. Whether a
dotted name is allowed is asked only after the names of the line have been bound and replaced, so
the bindings do not hang on it. A reference that is found again on its line is passed over, and as
the two are one text they are allowed together or not at all. So the references that are found with
more names allowed are those that are found anyway, in their order, without those that begin with
one of the names.
-/

import LlmTxt.Example.Resolution
import LlmTxt.Proofs.Name
import LlmTxt.Proofs.Text.Pieces

namespace LlmTxt

open Text

/-! ### The dotted names that a dotted name begins with -/

namespace ReferenceSearch

/-- Whether a dotted name is another one, or goes on behind it with a dot. -/
def beginsWith (path start : List Char) : Bool :=
  path == start || (start ++ ['.']).isPrefixOf path

theorem beginsWith_iff {path start : List Char} :
    beginsWith path start = true ↔ path = start ∨ ∃ rest, path = start ++ '.' :: rest := by
  simp only [beginsWith, Bool.or_eq_true, beq_iff_eq, List.isPrefixOf_iff_prefix]
  refine or_congr Iff.rfl (exists_congr fun rest => ?_)
  rw [List.append_assoc, List.singleton_append, eq_comm]

theorem join_append {front back : List (List Char)} (front_ne : front ≠ []) (back_ne : back ≠ []) :
    Name.join (front ++ back) = Name.join front ++ '.' :: Name.join back := by
  unfold Name.join
  induction front with
  | nil => exact absurd rfl front_ne
  | cons part rest inductionHypothesis =>
    cases rest with
    | nil =>
      obtain ⟨next, more, rfl⟩ := List.exists_cons_of_ne_nil back_ne
      rw [List.singleton_append, List.intercalate_cons_cons, List.intercalate_singleton,
        List.append_assoc, List.singleton_append]
    | cons next more =>
      rw [List.cons_append, List.cons_append, List.intercalate_cons_cons, ← List.cons_append,
        inductionHypothesis (by simp), List.intercalate_cons_cons, List.append_assoc,
        List.append_assoc, List.append_assoc]

/-- The parts of a dotted name up to one of its dots are what it begins with. -/
theorem mem_dottedStarts_iff {path start : List Char} :
    start ∈ dottedStarts path ↔ beginsWith path start = true := by
  have size (other : List Char) : (Name.segments other).length = other.count '.' + 1 :=
    length_splitAt '.' other
  rw [beginsWith_iff]
  unfold dottedStarts
  simp only [List.mem_map, List.mem_range]
  constructor
  · rintro ⟨count, within, rfl⟩
    by_cases ends : (Name.segments path).drop (count + 1) = []
    · left
      rw [List.take_of_length_le (List.drop_eq_nil_iff.mp ends), Name.join_segments]
    · right
      have begins : (Name.segments path).take (count + 1) ≠ [] := by
        refine List.ne_nil_of_length_pos ?_
        rw [List.length_take]
        omega
      refine ⟨Name.join ((Name.segments path).drop (count + 1)), ?_⟩
      rw [← join_append begins ends, List.take_append_drop, Name.join_segments]
  · rintro (rfl | ⟨rest, rfl⟩)
    · refine ⟨path.count '.', by rw [size]; omega, ?_⟩
      rw [← size, List.take_length, Name.join_segments]
    · have parts : Name.segments (start ++ '.' :: rest) =
          Name.segments start ++ Name.segments rest := splitAt_append '.' start rest
      refine ⟨start.count '.', ?_, ?_⟩
      · rw [parts, List.length_append, size]
        omega
      · rw [parts, ← size, List.take_left, Name.join_segments]

/-- What the names that are allowed make of a search for a package. -/
theorem isAllowed_ofPackage_iff {package : String} {language : Option String}
    {allowed : List String} {path : List Char} :
    (ofPackage package language allowed).isAllowed path = true ↔
      ∃ name ∈ allowed, lower name.toList ≠ importName package.toList ∧
        beginsWith path name.toList = true := by
  simp only [isAllowed, List.any_eq_true, mem_dottedStarts_iff, ofPackage, List.contains_iff_mem,
    List.mem_filter, List.mem_map, bne_iff_ne, ne_eq]
  constructor
  · rintro ⟨_, begins, ⟨name, member, rfl⟩, other⟩
    exact ⟨name, member, other, begins⟩
  · rintro ⟨name, member, other, begins⟩
    exact ⟨name.toList, begins, ⟨name, member, rfl⟩, other⟩

end ReferenceSearch

/-! ### Two searches -/

/-- How a reading stands to one that finds only those references that are kept: both have bound the
same names, and the other has found what is kept of the references. -/
structure ReferenceReading.IsThinned (keep : List Char → Bool)
    (reading thinned : ReferenceReading) : Prop where
  bindings_eq : thinned.bindings = reading.bindings
  references_eq : thinned.references.toList =
    reading.references.toList.filter fun reference => keep reference.text.toList

section Thinning

variable {search : ReferenceSearch} {allowed : List (List Char)} {keep : List Char → Bool}
  (thins : ∀ path, ({ search with allowed := allowed } : ReferenceSearch).isReference path =
    (search.isReference path && keep path))

namespace ReferenceReading

variable {reading thinned : ReferenceReading} {line : Nat} {kind : SectionKind}

/-- What is kept has been found before in both readings or in neither. -/
theorem IsThinned.add (same : reading.IsThinned keep thinned) {path : List Char}
    (kept : keep path = true) :
    (reading.add path line kind).IsThinned keep (thinned.add path line kind) := by
  have known : (thinned.references.any fun known =>
        known.text == String.ofList path && known.line == line) =
      reading.references.any fun known =>
        known.text == String.ofList path && known.line == line := by
    rw [← Array.any_toList, ← Array.any_toList, same.references_eq, List.any_filter]
    congr 1
    funext reference
    cases text : reference.text == String.ofList path with
    | false => simp
    | true => simp [beq_iff_eq.mp text, kept]
  unfold ReferenceReading.add
  dsimp only
  rw [known]
  split
  · exact same
  · exact ⟨same.bindings_eq, by simp [same.references_eq, kept]⟩

/-- What is not kept is found in one reading only. -/
theorem IsThinned.add_left (same : reading.IsThinned keep thinned) {path : List Char}
    (dropped : keep path = false) : (reading.add path line kind).IsThinned keep thinned := by
  unfold ReferenceReading.add
  dsimp only
  split
  · exact same
  · exact ⟨same.bindings_eq, by simp [same.references_eq, dropped]⟩

include thins in
theorem IsThinned.addAll (same : reading.IsThinned keep thinned) (paths : List (List Char)) :
    (reading.addAll search paths line kind).IsThinned keep
      (thinned.addAll { search with allowed := allowed } paths line kind) := by
  unfold ReferenceReading.addAll
  induction paths generalizing reading thinned with
  | nil => exact same
  | cons path rest inductionHypothesis =>
    rw [List.filter_cons, List.filter_cons, thins]
    cases search.isReference path with
    | false => exact inductionHypothesis same
    | true =>
      cases kept : keep path with
      | false => exact inductionHypothesis (same.add_left kept)
      | true => exact inductionHypothesis (same.add kept)

include thins in
/-- Names are bound, and replaced by what they are bound to, before it is asked what is allowed. -/
theorem IsThinned.readStatement (same : reading.IsThinned keep thinned)
    (statement : Nat × List Char) :
    (reading.readStatement search kind statement).IsThinned keep
      (thinned.readStatement { search with allowed := allowed } kind statement) := by
  have follows : ({ search with allowed := allowed } : ReferenceSearch).followsImports =
      search.followsImports := rfl
  unfold ReferenceReading.readStatement
  rw [follows]
  dsimp only
  cases (if search.followsImports = true then ImportStatement.ofText? statement.2 else none) with
  | some found =>
    have bound : IsThinned keep
        { reading with bindings := found.bindings.reverse ++ reading.bindings }
        { thinned with bindings := found.bindings.reverse ++ thinned.bindings } :=
      ⟨by rw [same.bindings_eq], same.references_eq⟩
    exact bound.addAll thins _
  | none =>
    dsimp only
    rw [same.bindings_eq]
    exact same.addAll thins _

/-- What each step keeps is kept by all steps, one after the other. -/
theorem IsThinned.foldl {Item : Type} {step other : ReferenceReading → Item → ReferenceReading}
    {items : List Item} (same : reading.IsThinned keep thinned)
    (each : ∀ item (reading thinned : ReferenceReading), reading.IsThinned keep thinned →
      (step reading item).IsThinned keep (other thinned item)) :
    (items.foldl step reading).IsThinned keep (items.foldl other thinned) := by
  induction items generalizing reading thinned with
  | nil => exact same
  | cons item rest inductionHypothesis => exact inductionHypothesis (each item _ _ same)

include thins in
theorem IsThinned.readSections (same : reading.IsThinned keep thinned) (sections : List Section) :
    (sections.foldl (readSection search) reading).IsThinned keep
      (sections.foldl (readSection { search with allowed := allowed }) thinned) := by
  refine same.foldl fun part reading thinned same => ?_
  unfold ReferenceReading.readSection
  split
  · exact same
  · refine same.foldl fun block reading thinned same => ?_
    unfold ReferenceReading.readBlock
    dsimp only
    split
    · exact same.foldl fun statement _ _ same => same.readStatement thins statement
    · exact same

end ReferenceReading

end Thinning

end LlmTxt

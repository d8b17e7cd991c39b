/-
This file orders paths by the names that they are made of, one name after the other, and says what
becomes of names that are followed from a directory: all that stands there afterwards is from the
directory or from the names, and names without two dots are put behind the directory as they stand.

It then says what a tree of directories holds. Names lead from a directory to what is below it, and
going through the tree finds each file once whose directories are all entered. Two dots lead back to
the directory around. Since a tree has no links, a path that leads somewhere leads to the same place
without them, each taking the name before it back: on the way from the root, the directories around
are those that the names so far lead through.
-/

import LlmTxt.Discovery
import Mathlib.Data.List.Count
import Mathlib.Data.List.Lex
import Mathlib.Data.List.Nodup
import Mathlib.Data.String.Basic

namespace LlmTxt

namespace Path

/-! ### The order of paths -/

theorem sortsBefore_iff {first second : List String} :
    sortsBefore first second = true ↔ ¬second < first := by
  fun_induction sortsBefore first second with
  | case1 => simp
  | case2 => simp
  | case3 name rest others inductionHypothesis =>
    rw [inductionHypothesis, List.cons_lt_cons_iff]
    simp
  | case4 name rest other others different =>
    rw [List.cons_lt_cons_iff, decide_eq_true_iff, ← String.not_lt]
    simp [Ne.symm different]

theorem sortsBefore_trans (first second third : List String)
    (firstSecond : sortsBefore first second) (secondThird : sortsBefore second third) :
    sortsBefore first third := by
  rw [sortsBefore_iff] at *
  exact fun less => secondThird (lt_of_lt_of_le less (not_lt.mp firstSecond))

theorem sortsBefore_total (first second : List String) :
    sortsBefore first second || sortsBefore second first := by
  rw [Bool.or_eq_true, sortsBefore_iff, sortsBefore_iff, not_lt, not_lt]
  exact le_total first second

/-- Sorted paths of which none stands there twice go up. -/
theorem pairwise_lt_mergeSort {paths : List (List String)} (once : paths.Nodup) :
    (paths.mergeSort sortsBefore).Pairwise (· < ·) := by
  have distinct : (paths.mergeSort sortsBefore).Pairwise (· ≠ ·) :=
    (List.mergeSort_perm paths sortsBefore).nodup_iff.mpr once
  have sorted := List.pairwise_mergeSort sortsBefore_trans sortsBefore_total paths
  refine (sorted.and distinct).imp fun {first second} both => ?_
  exact lt_of_le_of_ne (not_lt.mp (sortsBefore_iff.mp both.1)) both.2

/-- The names in front of two paths that are the same count for nothing. -/
theorem append_lt_append_iff (front : List String) {first second : List String} :
    front ++ first < front ++ second ↔ first < second := by
  induction front with
  | nil => rfl
  | cons name rest inductionHypothesis =>
    rw [List.cons_append, List.cons_append, List.cons_lt_cons_iff, inductionHypothesis]
    simp

/-! ### Following names -/

theorem follow_append (directory front back : List String) :
    follow directory (front ++ back) = follow (follow directory front) back :=
  List.foldl_append

theorem mem_of_mem_follow {directory parts : List String} {name : String}
    (member : name ∈ follow directory parts) : name ∈ directory ∨ name ∈ parts := by
  induction parts generalizing directory with
  | nil => exact Or.inl member
  | cons part rest inductionHypothesis =>
    rw [follow, List.foldl_cons] at member
    rcases inductionHypothesis member with earlier | later
    · split at earlier
      · exact Or.inl (List.dropLast_subset _ earlier)
      · rcases List.mem_append.mp earlier with known | own
        · exact Or.inl known
        · exact Or.inr (List.mem_singleton.mp own ▸ List.mem_cons_self)
    · exact Or.inr (List.mem_cons_of_mem _ later)

/-- Names without two dots are followed as they stand. -/
theorem follow_of_plain {directory parts : List String} (plain : ∀ part ∈ parts, part ≠ up) :
    follow directory parts = directory ++ parts := by
  induction parts generalizing directory with
  | nil => exact (List.append_nil directory).symm
  | cons part rest inductionHypothesis =>
    obtain ⟨own, others⟩ := List.forall_mem_cons.mp plain
    rw [follow, List.foldl_cons, beq_false_of_ne own, if_neg Bool.false_ne_true]
    exact (inductionHypothesis others).trans (List.append_assoc _ _ _)

end Path

namespace FileTree

variable {root tree entry : FileTree} {entries : List (String × FileTree)} {name : String}
  {names path : List String} {enters : String → Bool}

/-! ### What names lead to -/

theorem at?_append (tree : FileTree) (front back : List String) :
    tree.at? (front ++ back) = (tree.at? front).bind fun inner => inner.at? back := by
  induction front generalizing tree with
  | nil => rfl
  | cons name rest inductionHypothesis =>
    rw [List.cons_append, at?, at?]
    cases tree.child? name with
    | none => rfl
    | some entry => exact inductionHypothesis entry

/-- Every directory of a tree has each name once. -/
def NamesOnce (tree : FileTree) : Prop :=
  ∀ names inner, tree.at? names = some inner → (inner.entries.map (·.1)).Nodup

theorem NamesOnce.at? (once : root.NamesOnce) (found : root.at? names = some tree) :
    tree.NamesOnce := by
  intro further inner behind
  refine once (names ++ further) inner ?_
  rw [at?_append, found]
  exact behind

theorem NamesOnce.child? (once : tree.NamesOnce) (found : tree.child? name = some entry) :
    entry.NamesOnce := by
  have behind : tree.at? [name] = some entry := by
    rw [FileTree.at?, found]
    rfl
  exact once.at? behind

theorem namesOnce_file (content : List UInt8) : (file content).NamesOnce := by
  intro names inner found
  cases names with
  | nil =>
    obtain rfl := Option.some.inj found
    exact List.nodup_nil
  | cons name rest => cases found

theorem namesOnce_directory (own : (entries.map (·.1)).Nodup)
    (below : ∀ pair ∈ entries, pair.2.NamesOnce) : (directory entries).NamesOnce := by
  intro names inner found
  cases names with
  | nil =>
    obtain rfl := Option.some.inj found
    exact own
  | cons name rest =>
    obtain ⟨entry, child, behind⟩ := Option.bind_eq_some_iff.mp found
    obtain ⟨front, back, split, -⟩ := List.lookup_eq_some_iff.mp child
    have member : (name, entry) ∈ (directory entries).entries := split ▸ by simp
    exact below (name, entry) member rest inner behind

/-- Where names stand once, an entry is what its name leads to. -/
theorem mem_entries_iff (once : (entries.map (·.1)).Nodup) :
    (name, entry) ∈ entries ↔ entries.lookup name = some entry := by
  induction entries with
  | nil => simp
  | cons first rest inductionHypothesis =>
    obtain ⟨known, own⟩ := first
    obtain ⟨new, others⟩ := List.nodup_cons.mp once
    rw [List.mem_cons, List.lookup_cons, Prod.mk.injEq]
    by_cases same : name = known
    · subst same
      have notLater : (name, entry) ∉ rest := fun member =>
        new (List.mem_map.mpr ⟨(name, entry), member, rfl⟩)
      simp [notLater, eq_comm]
    · rw [beq_false_of_ne same, inductionHypothesis others]
      simp [same]

/-! ### The files of a tree -/

theorem mem_filesOfEntries_iff :
    path ∈ filesOfEntries enters entries ↔
      ∃ name entry rest, path = name :: rest ∧ (name, entry) ∈ entries ∧
        (entry.isDirectory = true → enters name = true) ∧ rest ∈ entry.files enters := by
  induction entries with
  | nil => simp [filesOfEntries]
  | cons first others inductionHypothesis =>
    obtain ⟨known, own⟩ := first
    rw [filesOfEntries, List.mem_append, inductionHypothesis]
    constructor
    · rintro (member | ⟨name, entry, rest, split, inOthers, passed, below⟩)
      · split at member
        · cases member
        · rename_i entered
          obtain ⟨rest, below, rfl⟩ := List.mem_map.mp member
          refine ⟨known, own, rest, rfl, List.mem_cons_self, fun isDirectory => ?_, below⟩
          simpa [isDirectory] using entered
      · exact ⟨name, entry, rest, split, List.mem_cons_of_mem _ inOthers, passed, below⟩
    · rintro ⟨name, entry, rest, rfl, member, passed, below⟩
      rcases List.mem_cons.mp member with same | inOthers
      · obtain ⟨rfl, rfl⟩ := Prod.mk.inj same
        refine Or.inl ?_
        rw [if_neg (by simpa using passed)]
        exact List.mem_map_of_mem below
      · exact Or.inr ⟨name, entry, rest, rfl, inOthers, passed, below⟩

theorem nil_notMem_filesOfEntries : [] ∉ filesOfEntries enters entries := fun member => by
  obtain ⟨_, _, _, split, _⟩ := mem_filesOfEntries_iff.mp member
  cases split

/-- A file below a directory is found in an entry of that directory. -/
theorem cons_mem_files_iff (once : tree.NamesOnce) :
    name :: path ∈ tree.files enters ↔
      ∃ entry, tree.child? name = some entry ∧ (entry.isDirectory = true → enters name = true) ∧
        path ∈ entry.files enters := by
  cases tree with
  | file content => simp [files, FileTree.child?, FileTree.entries]
  | directory entries =>
    have own : (entries.map (·.1)).Nodup := once [] (directory entries) rfl
    have leads (entry : FileTree) :
        (name, entry) ∈ entries ↔ (directory entries).child? name = some entry := mem_entries_iff own
    rw [files, mem_filesOfEntries_iff]
    constructor
    · rintro ⟨_, entry, _, ⟨⟩, member, passed, below⟩
      exact ⟨entry, (leads entry).mp member, passed, below⟩
    · rintro ⟨entry, found, passed, below⟩
      exact ⟨name, entry, path, rfl, (leads entry).mpr found, passed, below⟩

theorem isDirectory_iff_of_at? {content : List UInt8} (found : tree.at? path = some (file content)) :
    tree.isDirectory = true ↔ path ≠ [] := by
  cases path with
  | nil =>
    obtain rfl := Option.some.inj found
    simp [isDirectory]
  | cons name rest =>
    cases tree with
    | file own => cases found
    | directory entries => simp [isDirectory]

/-- The files that are found are those that names lead to through directories that are entered. -/
theorem mem_files_iff (once : tree.NamesOnce) :
    path ∈ tree.files enters ↔
      (∃ content, tree.at? path = some (file content)) ∧
        ∀ directory ∈ path.dropLast, enters directory = true := by
  induction path generalizing tree with
  | nil =>
    cases tree with
    | file content => simp [files, at?]
    | directory entries => simp [files, at?, nil_notMem_filesOfEntries]
  | cons name rest inductionHypothesis =>
    have directories : (∀ directory ∈ (name :: rest).dropLast, enters directory = true) ↔
        (rest ≠ [] → enters name = true) ∧
          ∀ directory ∈ rest.dropLast, enters directory = true := by
      cases rest <;> simp
    rw [cons_mem_files_iff once, directories, at?]
    constructor
    · rintro ⟨entry, found, passed, below⟩
      obtain ⟨⟨content, isFile⟩, entered⟩ := (inductionHypothesis (once.child? found)).mp below
      rw [isDirectory_iff_of_at? isFile] at passed
      exact ⟨⟨content, by rw [found]; exact isFile⟩, passed, entered⟩
    · rintro ⟨⟨content, isFile⟩, passed, entered⟩
      obtain ⟨entry, found, isFile⟩ := Option.bind_eq_some_iff.mp isFile
      rw [← isDirectory_iff_of_at? isFile] at passed
      exact ⟨entry, found, passed,
        (inductionHypothesis (once.child? found)).mpr ⟨⟨content, isFile⟩, entered⟩⟩

theorem count_filesOfEntries_le (own : (entries.map (·.1)).Nodup)
    (below : ∀ entry, (name, entry) ∈ entries → (entry.files enters).count path ≤ 1) :
    (filesOfEntries enters entries).count (name :: path) ≤ 1 := by
  induction entries with
  | nil => simp [filesOfEntries]
  | cons first rest inductionHypothesis =>
    obtain ⟨known, entry⟩ := first
    obtain ⟨new, others⟩ := List.nodup_cons.mp own
    have further := inductionHypothesis others fun other member =>
      below other (List.mem_cons_of_mem _ member)
    rw [filesOfEntries, List.count_append]
    by_cases same : known = name
    · subst same
      have inFirst : (if (entry.isDirectory && !enters known) = true then []
          else (entry.files enters).map (known :: ·)).count (known :: path) ≤ 1 := by
        split
        · simp
        · rw [List.count_map_of_injective _ _ (List.cons_injective)]
          exact below entry List.mem_cons_self
      have notInRest : (filesOfEntries enters rest).count (known :: path) = 0 := by
        refine List.count_eq_zero.mpr fun member => ?_
        obtain ⟨_, other, _, ⟨⟩, inRest, _⟩ := mem_filesOfEntries_iff.mp member
        exact new (List.mem_map.mpr ⟨(known, other), inRest, rfl⟩)
      omega
    · have notInFirst : (if (entry.isDirectory && !enters known) = true then []
          else (entry.files enters).map (known :: ·)).count (name :: path) = 0 := by
        refine List.count_eq_zero.mpr fun member => ?_
        split at member
        · cases member
        · obtain ⟨_, _, split⟩ := List.mem_map.mp member
          exact same (List.cons.inj split).1
      omega

/-- No file is found twice. -/
theorem nodup_files (once : tree.NamesOnce) : (tree.files enters).Nodup := by
  refine List.nodup_iff_count_le_one.mpr fun path => ?_
  induction path generalizing tree with
  | nil =>
    cases tree with
    | file content => simp [files]
    | directory entries =>
      rw [files, List.count_eq_zero.mpr nil_notMem_filesOfEntries]
      exact Nat.zero_le 1
  | cons name rest inductionHypothesis =>
    cases tree with
    | file content => simp [files]
    | directory entries =>
      have own : (entries.map (·.1)).Nodup := once [] (directory entries) rfl
      rw [files]
      refine count_filesOfEntries_le own fun entry member => ?_
      have found : (directory entries).child? name = some entry := (mem_entries_iff own).mp member
      exact inductionHypothesis (once.child? found)

/-! ### Two dots -/

/-- What names lead to from the root, none of which are two dots, with the directories around it, the
nearest first. -/
inductive IsTrail (root : FileTree) : List String → List FileTree → FileTree → Prop
  | start : IsTrail root [] [] root
  | step {names : List String} {around : List FileTree} {tree entry : FileTree} {name : String}
      (trail : IsTrail root names around tree) (plain : name ≠ Path.up)
      (short : name.utf8ByteSize ≤ maxNameSize) (found : tree.child? name = some entry) :
      IsTrail root (names ++ [name]) (tree :: around) entry

variable {around : List FileTree}

theorem IsTrail.at?_eq (trail : IsTrail root names around tree) : root.at? names = some tree := by
  induction trail with
  | start => rfl
  | step trail plain short found inductionHypothesis =>
    rw [at?_append, inductionHypothesis, Option.bind_some, at?, found]
    rfl

theorem isDirectory_of_child? (found : tree.child? name = some entry) :
    tree.isDirectory = true := by
  cases tree with
  | file content => cases found
  | directory entries => rfl

/-- Following names from the root passes through the end of a trail. -/
theorem IsTrail.walk_append (trail : IsTrail root names around tree) (rest : List String) :
    walk [] root (names ++ rest) = walk around tree rest := by
  induction trail generalizing rest with
  | start => rfl
  | step trail plain short found inductionHypothesis =>
    rw [List.append_assoc, inductionHypothesis, List.singleton_append, walk.eq_def]
    dsimp only
    rw [isDirectory_of_child? found, beq_false_of_ne plain, found, if_neg (Nat.not_lt.mpr short)]
    rfl

/-- Two dots lead back on the trail, as they take the last name back. -/
theorem IsTrail.follow (trail : IsTrail root names around tree) {rest : List String}
    {inner : FileTree} (found : walk around tree rest = .ok inner) :
    ∃ outer, IsTrail root (Path.follow names rest) outer inner := by
  induction rest generalizing names around tree with
  | nil =>
    cases found
    exact ⟨around, trail⟩
  | cons name rest inductionHypothesis =>
    rw [walk.eq_def] at found
    dsimp only at found
    rw [Path.follow, List.foldl_cons]
    split at found
    · cases found
    · split at found
      · rename_i isUp
        rw [if_pos isUp]
        cases trail with
        | start => exact inductionHypothesis .start found
        | step trail plain short child =>
          rw [List.dropLast_concat]
          exact inductionHypothesis trail found
      · rename_i notUp
        rw [if_neg notUp]
        split at found
        · cases found
        · rename_i short
          split at found
          · cases found
          · rename_i entry child
            refine inductionHypothesis (trail.step ?_ (Nat.not_lt.mp short) child) found
            simpa using notUp

end FileTree

/-! ### File systems -/

namespace Workspace

variable {workspace : Workspace} {path : Path} {tree : FileTree}

/-- A file system in which each directory has every name once, and whose current directory is
told by names alone: there are no two dots among them, and no null character in them. -/
structure IsProper (workspace : Workspace) : Prop where
  once : workspace.root.NamesOnce
  plain : ∀ name ∈ workspace.current, name ≠ Path.up
  clean : ∀ name ∈ workspace.current, '\x00' ∉ name.toList

/-- The place that a path leads to, as a path from the root. -/
def placeOf (workspace : Workspace) (path : Path) : Path :=
  ⟨.root, path.resolve workspace.current⟩

theorem find_eq_ok_iff :
    workspace.find path = .ok tree ↔
      path.holdsNull = false ∧ path.text.utf8ByteSize ≤ maxPathSize ∧
        FileTree.walk [] workspace.root (workspace.fromRoot path) = .ok tree := by
  unfold find
  cases path.holdsNull with
  | true => simp
  | false =>
    rw [if_neg Bool.false_ne_true]
    split
    · rename_i long
      simp [Nat.not_le.mpr long]
    · rename_i short
      simp [Nat.not_lt.mp short]

theorem follow_fromRoot (proper : workspace.IsProper) (path : Path) :
    Path.follow [] (workspace.fromRoot path) = path.resolve workspace.current := by
  unfold fromRoot Path.resolve
  split
  · rfl
  · rw [Path.follow_append, Path.follow_of_plain proper.plain, List.nil_append]

/-- A path leads to where names lead without two dots. -/
theorem exists_trail_of_find (proper : workspace.IsProper) (found : workspace.find path = .ok tree) :
    ∃ around, FileTree.IsTrail workspace.root (path.resolve workspace.current) around tree := by
  have walked := (find_eq_ok_iff.mp found).2.2
  rw [← follow_fromRoot proper path]
  exact FileTree.IsTrail.start.follow walked

theorem namesOnce_of_find (proper : workspace.IsProper) (found : workspace.find path = .ok tree) :
    tree.NamesOnce := by
  obtain ⟨around, trail⟩ := exists_trail_of_find proper found
  exact proper.once.at? trail.at?_eq

/-- The place of a path leads to where the path leads, unless it is too long to be looked up. -/
theorem find_placeOf (proper : workspace.IsProper)
    (short : (workspace.placeOf path).text.utf8ByteSize ≤ maxPathSize)
    (found : workspace.find path = .ok tree) :
    workspace.find (workspace.placeOf path) = .ok tree := by
  have clean : (workspace.placeOf path).holdsNull = false := by
    refine List.any_eq_false.mpr fun part member => ?_
    have kept := (find_eq_ok_iff.mp found).1
    rcases Path.mem_of_mem_follow member with around | own
    · split at around
      · cases around
      · simpa using proper.clean part around
    · exact List.any_eq_false.mp kept part own
  refine find_eq_ok_iff.mpr ⟨clean, short, ?_⟩
  obtain ⟨around, trail⟩ := exists_trail_of_find proper found
  have walked := trail.walk_append []
  rw [List.append_nil, FileTree.walk.eq_def around] at walked
  exact walked

end Workspace

end LlmTxt

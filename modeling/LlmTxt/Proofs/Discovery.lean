/-
This file says which documents are found. In a directory these are the files that bear one of the
names that are looked for, in letters of either case, with no directory on the way that is hidden or
excluded; each is found once, and they are sorted name by name. Several paths lead to the documents of
one path after the other, each document where it is first found. What is looked for can be left open:
where no names are given, or no directories to pass by, the usual ones are meant.
-/

import LlmTxt.Proofs.Distinct
import LlmTxt.Proofs.FileTree
import LlmTxt.Proofs.Steps

namespace LlmTxt

open Text

namespace DocumentSearch

variable {names excluded : List String} {search : DocumentSearch} {workspace : Workspace}
  {tree : FileTree} {base path : Path} {parts : List String}

/-! ### Documents in a directory -/

/-- Some names, or the usual ones where none are given. -/
def orUsual (given usual : List String) : List String :=
  if given = [] then usual else given

/-- A file in a tree that bears one of some names, in letters of either case, with no directory on
the way that is hidden or excluded. -/
structure IsDocument (names excluded : List String) (tree : FileTree) (path : List String) :
    Prop where
  file : ∃ content, tree.at? path = some (.file content)
  named : ∃ last ∈ path.getLast?, ∃ name ∈ names, lowerName last = lowerName name
  entered : ∀ directory ∈ path.dropLast, ¬['.'] <+: directory.toList ∧ directory ∉ excluded

theorem ofNames_eq (names excluded : List String) :
    ofNames names excluded =
      ⟨(orUsual names documentNames).map lowerName, orUsual excluded excludedNames⟩ := by
  unfold ofNames orUsual
  simp only [List.isEmpty_iff]

theorem enters_iff {directory : String} :
    search.enters directory = true ↔
      ¬['.'] <+: directory.toList ∧ directory ∉ search.excluded := by
  unfold enters
  cases directory.toList with
  | nil => simp
  | cons first rest => simp [List.cons_prefix_cons, @eq_comm _ '.' first]

theorem accepts_iff :
    (ofNames names excluded).accepts parts = true ↔
      ∃ last ∈ parts.getLast?, ∃ name ∈ orUsual names documentNames,
        lowerName last = lowerName name := by
  rw [ofNames_eq]
  unfold accepts
  cases parts.getLast? <;> simp [eq_comm]

theorem mem_documents_iff (once : tree.NamesOnce) :
    parts ∈ (ofNames names excluded).documents tree ↔
      IsDocument (orUsual names documentNames) (orUsual excluded excludedNames) tree parts := by
  have passed : (∀ directory ∈ parts.dropLast, (ofNames names excluded).enters directory = true) ↔
      ∀ directory ∈ parts.dropLast,
        ¬['.'] <+: directory.toList ∧ directory ∉ orUsual excluded excludedNames := by
    simp only [enters_iff, ofNames_eq]
  unfold documents
  rw [(List.mergeSort_perm _ _).mem_iff, List.mem_filter, FileTree.mem_files_iff once, accepts_iff,
    passed]
  exact ⟨fun ⟨⟨file, entered⟩, named⟩ => ⟨file, named, entered⟩,
    fun ⟨file, named, entered⟩ => ⟨⟨file, entered⟩, named⟩⟩

/-- The documents of a tree are found once each, in the order of their paths. -/
theorem documents_pairwise (once : tree.NamesOnce) :
    (search.documents tree).Pairwise (· < ·) :=
  Path.pairwise_lt_mergeSort ((FileTree.nodup_files once).filter _)

theorem scan_eq (clean : base.holdsNull = false)
    (found : workspace.find (workspace.placeOf base) = .ok tree)
    (isDirectory : tree.isDirectory = true) :
    search.scan workspace base =
      .ok ((search.documents tree).map (base.resolve workspace.current ++ ·)) := by
  unfold scan
  dsimp only
  unfold Workspace.placeOf at found
  rw [clean, found]
  cases tree with
  | file content => cases isDirectory
  | directory entries => rfl

end DocumentSearch

/-! ### Documents that paths lead to -/

namespace Workspace

/-- A path can be looked up, as it is and from the root. -/
structure CanLookUp (workspace : Workspace) (path : Path) : Prop where
  given : workspace.find path ≠ .error .tooLong
  place : (workspace.placeOf path).text.utf8ByteSize ≤ maxPathSize

/-- A path leads to something. -/
def Holds (workspace : Workspace) (path : Path) : Prop :=
  ∃ tree, workspace.find path = .ok tree

end Workspace

namespace DocumentSearch

variable {names excluded : List String} {search : DocumentSearch} {workspace : Workspace}
  {path : Path} {paths : List Path}

/-- The documents of one path: the file that it leads to, or those in the directory. -/
inductive Gives (search : DocumentSearch) (workspace : Workspace) (path : Path) :
    List (List String) → Prop
  | file {content : List UInt8} (leads : workspace.find path = .ok (.file content)) :
      Gives search workspace path [path.resolve workspace.current]
  | directory {entries : List (String × FileTree)} {found : List (List String)}
      (leads : workspace.find path = .ok (.directory entries))
      (scanned : search.scan workspace path = .ok found) : Gives search workspace path found

theorem ofPath_of_not_holds (canLookUp : workspace.CanLookUp path)
    (missing : ¬workspace.Holds path) :
    search.ofPath workspace path = .error (.noPath path.text) := by
  unfold ofPath
  cases found : workspace.find path with
  | ok tree => exact absurd ⟨tree, found⟩ missing
  | error fault =>
    cases fault with
    | missing => rfl
    | tooLong => exact absurd found canLookUp.given

theorem exists_ofPath (proper : workspace.IsProper) (canLookUp : workspace.CanLookUp path)
    (holds : workspace.Holds path) :
    ∃ found, search.ofPath workspace path = .ok found ∧ Gives search workspace path found := by
  obtain ⟨tree, leads⟩ := holds
  unfold ofPath
  rw [leads]
  cases tree with
  | file content => exact ⟨_, rfl, .file leads⟩
  | directory entries =>
    have clean := (Workspace.find_eq_ok_iff.mp leads).1
    have leadsThere := Workspace.find_placeOf proper canLookUp.place leads
    have scanned : search.scan workspace path = .ok _ := scan_eq clean leadsThere rfl
    exact ⟨_, scanned, .directory leads scanned⟩

/-- Paths that all lead somewhere give their documents, each where it is first found. -/
theorem discover_of_holds (proper : workspace.IsProper)
    (canLookUp : ∀ path ∈ paths, workspace.CanLookUp path)
    (holds : ∀ path ∈ paths, workspace.Holds path) :
    ∃ given found, List.Forall₂ (Gives search workspace) paths given ∧
      search.discover workspace paths = .ok found ∧ KeepsFirst given.flatten found := by
  have each : List.Forall₂ (fun path aim => ∃ found, search.ofPath workspace path = .ok found ∧
      Gives search workspace aim found) paths paths :=
    List.forall₂_same.mpr fun path member =>
      exists_ofPath proper (canLookUp path member) (holds path member)
  obtain ⟨given, run, gives⟩ := exists_mapM each
  refine ⟨given, given.flatten.eraseDups, gives.flip, ?_, keepsFirst_eraseDups _⟩
  rw [discover, run]
  rfl

theorem ofPath_isOk_iff (proper : workspace.IsProper) (canLookUp : workspace.CanLookUp path) :
    (∃ found, search.ofPath workspace path = .ok found) ↔ workspace.Holds path := by
  constructor
  · rintro ⟨found, gave⟩
    by_contra missing
    cases gave.symm.trans (ofPath_of_not_holds canLookUp missing)
  · intro holds
    obtain ⟨found, gave, _⟩ := exists_ofPath proper canLookUp holds
    exact ⟨found, gave⟩

theorem discover_eq_error_iff {failure : DiscoveryFailure} :
    search.discover workspace paths = .error failure ↔
      paths.mapM (search.ofPath workspace) = .error failure := by
  unfold discover
  cases paths.mapM (search.ofPath workspace) <;> simp [Except.map]

/-- Nothing is found exactly where some path leads nowhere. -/
theorem discover_fails_iff (proper : workspace.IsProper)
    (canLookUp : ∀ path ∈ paths, workspace.CanLookUp path) :
    (∃ failure, search.discover workspace paths = .error failure) ↔
      ∃ path ∈ paths, ¬workspace.Holds path := by
  have all : (∃ given, paths.mapM (search.ofPath workspace) = .ok given) ↔
      ∀ path ∈ paths, workspace.Holds path := by
    rw [mapM_isOk_iff]
    exact forall₂_congr fun path member => ofPath_isOk_iff proper (canLookUp path member)
  simp only [discover_eq_error_iff]
  cases run : paths.mapM (search.ofPath workspace) with
  | ok given =>
    have holds := all.mp ⟨given, run⟩
    simpa using holds
  | error failure =>
    have missing : ¬∀ path ∈ paths, workspace.Holds path := fun holds => by
      obtain ⟨given, gave⟩ := all.mpr holds
      cases run.symm.trans gave
    simpa using missing

/-- The first path that leads nowhere is named. -/
theorem discover_names_first (proper : workspace.IsProper)
    (canLookUp : ∀ path ∈ paths, workspace.CanLookUp path) {failure : DiscoveryFailure}
    (failed : search.discover workspace paths = .error failure) :
    ∃ front path back, paths = front ++ path :: back ∧
      (∀ earlier ∈ front, workspace.Holds earlier) ∧ ¬workspace.Holds path ∧
      failure = .noPath path.text := by
  obtain ⟨front, path, back, rfl, passed, fails⟩ :=
    exists_of_mapM_eq_error (discover_eq_error_iff.mp failed)
  have canLookUpOwn : workspace.CanLookUp path := canLookUp path (by simp)
  have missing : ¬workspace.Holds path := fun holds => by
    obtain ⟨found, gave⟩ := (ofPath_isOk_iff proper canLookUpOwn).mpr holds
    cases gave.symm.trans fails
  refine ⟨front, path, back, rfl, fun earlier member => ?_, missing, ?_⟩
  · have canLookUpEarlier := canLookUp earlier (List.mem_append_left _ member)
    exact (ofPath_isOk_iff proper canLookUpEarlier).mp (passed earlier member)
  · exact Except.error.inj (fails.symm.trans (ofPath_of_not_holds canLookUpOwn missing))

/-- In a directory exactly the documents are found, each once and in the order of their paths, where
no names and no directories stand for the usual ones. Paths that can be looked up give nothing exactly
if some of them leads nowhere, and then the first of these is named; otherwise they give the documents
of one path after the other, each where it is first found. -/
theorem documents_are_found_once (names excluded : List String) {workspace : Workspace}
    (proper : workspace.IsProper) :
    (∀ base tree, base.holdsNull = false →
      workspace.find (workspace.placeOf base) = .ok tree → tree.isDirectory = true →
      ∃ found, (ofNames names excluded).scan workspace base = .ok found ∧
        found.Pairwise (· < ·) ∧
        ∀ path, path ∈ found ↔ ∃ below, path = base.resolve workspace.current ++ below ∧
          IsDocument (orUsual names documentNames) (orUsual excluded excludedNames) tree below) ∧
    ∀ paths : List Path, (∀ path ∈ paths, workspace.CanLookUp path) →
      ((∃ failure, (ofNames names excluded).discover workspace paths = .error failure) ↔
        ∃ path ∈ paths, ¬workspace.Holds path) ∧
      (∀ failure, (ofNames names excluded).discover workspace paths = .error failure →
        ∃ front path back, paths = front ++ path :: back ∧
          (∀ earlier ∈ front, workspace.Holds earlier) ∧ ¬workspace.Holds path ∧
          failure = .noPath path.text) ∧
      ((∀ path ∈ paths, workspace.Holds path) →
        ∃ given found, List.Forall₂ (Gives (ofNames names excluded) workspace) paths given ∧
          (ofNames names excluded).discover workspace paths = .ok found ∧
          KeepsFirst given.flatten found) := by
  refine ⟨fun base tree clean found isDirectory => ?_, fun paths canLookUp =>
    ⟨discover_fails_iff proper canLookUp, fun failure => discover_names_first proper canLookUp,
      discover_of_holds proper canLookUp⟩⟩
  have once := Workspace.namesOnce_of_find proper found
  refine ⟨_, scan_eq clean found isDirectory, ?_, fun path => ?_⟩
  · refine List.pairwise_map.mpr ((documents_pairwise once).imp ?_)
    exact (Path.append_lt_append_iff _).mpr
  · simp only [List.mem_map, mem_documents_iff once, eq_comm, and_comm]

/-- A directory with documents in several places. -/
def sampleTree : FileTree := .directory [
  ("llm.txt", .file []),
  ("docs", .directory [("LLMS.txt", .file []), ("guide.md", .file [])]),
  ("build", .directory [("llm.txt", .file [])])]

/-- A file system with nothing but that directory. -/
def sampleWorkspace : Workspace := ⟨sampleTree, []⟩

theorem sampleWorkspace_isProper : sampleWorkspace.IsProper := by
  refine ⟨FileTree.namesOnce_directory (by decide) ?_, nofun, nofun⟩
  have files (entries : List (String × FileTree)) (own : (entries.map (·.1)).Nodup)
      (plain : ∀ pair ∈ entries, pair.2 = .file []) : (FileTree.directory entries).NamesOnce :=
    FileTree.namesOnce_directory own fun pair member =>
      plain pair member ▸ FileTree.namesOnce_file []
  simp only [List.forall_mem_cons]
  exact ⟨FileTree.namesOnce_file [], files _ (by decide) (by simp), files _ (by decide) (by simp),
    nofun⟩

theorem documents_are_found_once_in_sample :
    sampleWorkspace.IsProper ∧
      (∃ found, (ofNames [] []).scan sampleWorkspace ⟨.current, []⟩ = .ok found ∧
        found.Pairwise (· < ·) ∧ ["docs", "LLMS.txt"] ∈ found ∧ ["build", "llm.txt"] ∉ found) ∧
      (∃ given found, List.Forall₂ (Gives (ofNames [] []) sampleWorkspace)
          [⟨.current, ["docs", "LLMS.txt"]⟩, ⟨.current, []⟩] given ∧
        (ofNames [] []).discover sampleWorkspace
          [⟨.current, ["docs", "LLMS.txt"]⟩, ⟨.current, []⟩] = .ok found ∧
        KeepsFirst given.flatten found) ∧
      ∃ failure, (ofNames [] []).discover sampleWorkspace
        [⟨.current, []⟩, ⟨.current, ["llm.txt", "gone"]⟩] = .error failure := by
  have proper := sampleWorkspace_isProper
  have top : sampleWorkspace.find (sampleWorkspace.placeOf ⟨.current, []⟩) = .ok sampleTree := rfl
  have here : sampleWorkspace.find ⟨.current, []⟩ = .ok sampleTree := rfl
  have file : sampleWorkspace.find ⟨.current, ["docs", "LLMS.txt"]⟩ = .ok (.file []) := rfl
  have gone : sampleWorkspace.find ⟨.current, ["llm.txt", "gone"]⟩ = .error .missing := rfl
  have canLookUpHere : sampleWorkspace.CanLookUp ⟨.current, []⟩ :=
    ⟨by rw [here]; exact nofun, by decide⟩
  have canLookUpFile : sampleWorkspace.CanLookUp ⟨.current, ["docs", "LLMS.txt"]⟩ :=
    ⟨by rw [file]; exact nofun, by decide⟩
  have canLookUpGone : sampleWorkspace.CanLookUp ⟨.current, ["llm.txt", "gone"]⟩ :=
    ⟨by rw [gone]; exact nofun, by decide⟩
  obtain ⟨scans, discovers⟩ := documents_are_found_once [] [] proper
  refine ⟨proper, ?_, ?_, ?_⟩
  · obtain ⟨found, run, sorted, listed⟩ := scans ⟨.current, []⟩ sampleTree rfl top rfl
    refine ⟨found, run, sorted, (listed _).mpr ⟨["docs", "LLMS.txt"], rfl, ⟨[], rfl⟩, ?_, ?_⟩, ?_⟩
    · exact ⟨"LLMS.txt", rfl, "llms.txt", by decide, by decide⟩
    · decide
    · intro member
      obtain ⟨_, rfl, isDocument⟩ := (listed _).mp member
      exact absurd (isDocument.entered "build" (by decide)).2 (by decide)
  · exact (discovers _ (by simp [canLookUpHere, canLookUpFile])).2.2
      (by simpa using ⟨⟨_, file⟩, ⟨_, here⟩⟩)
  · refine (discovers _ (by simp [canLookUpHere, canLookUpGone])).1.mpr
      ⟨⟨.current, ["llm.txt", "gone"]⟩, by simp, ?_⟩
    rintro ⟨tree, found⟩
    cases gone.symm.trans found

/-! ### Searches left open, and paths that are too long -/

/-- A name made of one letter. -/
def letters (count : Nat) : String :=
  String.ofList (List.replicate count 'a')

theorem utf8ByteSize_letters (count : Nat) : (letters count).utf8ByteSize = count := by
  unfold letters
  rw [String.utf8ByteSize_ofList]
  induction count with
  | zero => rfl
  | succ count inductionHypothesis =>
    rw [List.replicate_succ, String.utf8Len_cons, inductionHypothesis]
    rfl

/-- The size tells a name of many letters from others. -/
theorem letters_ne {count : Nat} {name : String} (long : name.utf8ByteSize < count) :
    letters count ≠ name := by
  rintro rfl
  rw [utf8ByteSize_letters] at long
  exact Nat.lt_irrefl count long

/-- A name that is too long cannot be looked up. -/
theorem find_letters {workspace : Workspace} (top : workspace.current = [])
    (isDirectory : workspace.root.isDirectory = true) {count : Nat} (long : maxNameSize < count)
    (short : count ≤ maxPathSize) :
    workspace.find ⟨.current, [letters count]⟩ = .error .tooLong := by
  have clean : (⟨.current, [letters count]⟩ : Path).holdsNull = false := by
    simp [Path.holdsNull, letters, List.mem_replicate]
  have filled : (letters count).isEmpty = false :=
    Bool.eq_false_iff.mpr fun empty =>
      letters_ne (Nat.lt_of_le_of_lt (by decide) long) (String.isEmpty_iff.mp empty)
  have text : (⟨.current, [letters count]⟩ : Path).text = letters count := by
    have whole : PathStart.current.text ++ "/".intercalate [letters count] = letters count := by
      rw [String.intercalate_singleton]
      exact String.empty_append
    unfold Path.text
    simp only [whole, filled, Bool.false_eq_true, if_false]
  have notUp : (letters count == Path.up) = false :=
    beq_false_of_ne (letters_ne (Nat.lt_of_le_of_lt (by decide) long))
  have fromRoot : workspace.fromRoot ⟨.current, [letters count]⟩ = [letters count] := by
    unfold Workspace.fromRoot
    rw [top]
    rfl
  unfold Workspace.find
  rw [clean, text, utf8ByteSize_letters, if_neg Bool.false_ne_true, if_neg (Nat.not_lt.mpr short),
    fromRoot, FileTree.walk.eq_def]
  dsimp only
  rw [isDirectory, notUp, utf8ByteSize_letters, if_neg (by decide), if_neg Bool.false_ne_true,
    if_pos long]

/-- Not every search finds what it is told to find. A search for no names finds documents of the usual
names; a search that excludes no directories passes by the usual ones; and a path that leads nowhere,
because its name is too long, is not refused as one that does not exist. -/
theorem open_searches_and_long_names :
    (∃ found, (ofNames [] ["build"]).scan sampleWorkspace ⟨.current, []⟩ = .ok found ∧
      ["llm.txt"] ∈ found ∧ ¬IsDocument [] ["build"] sampleTree ["llm.txt"]) ∧
    (∃ found, (ofNames ["llm.txt"] []).scan sampleWorkspace ⟨.current, []⟩ = .ok found ∧
      ["build", "llm.txt"] ∉ found ∧ IsDocument ["llm.txt"] [] sampleTree ["build", "llm.txt"]) ∧
    ¬sampleWorkspace.Holds ⟨.current, [letters 256]⟩ ∧
      (ofNames [] []).discover sampleWorkspace [⟨.current, [letters 256]⟩] =
        .error (.tooLong (⟨.current, [letters 256]⟩ : Path).text) := by
  have once := sampleWorkspace_isProper.once
  have top : sampleWorkspace.find (sampleWorkspace.placeOf ⟨.current, []⟩) = .ok sampleTree := rfl
  have found (search : DocumentSearch) : search.scan sampleWorkspace ⟨.current, []⟩ =
      .ok ((search.documents sampleTree).map ([] ++ ·)) := scan_eq rfl top rfl
  have long : sampleWorkspace.find ⟨.current, [letters 256]⟩ = .error .tooLong :=
    find_letters rfl rfl (by decide) (by decide)
  refine ⟨⟨_, found _, ?_, ?_⟩, ⟨_, found _, ?_, ?_⟩, ?_, ?_⟩
  · refine List.mem_map.mpr ⟨["llm.txt"], (mem_documents_iff once).mpr ⟨⟨[], rfl⟩, ?_, nofun⟩, rfl⟩
    exact ⟨"llm.txt", rfl, "llm.txt", by decide, rfl⟩
  · intro isDocument
    obtain ⟨_, _, _, ⟨⟩, _⟩ := isDocument.named
  · intro member
    obtain ⟨parts, inTree, rfl⟩ := List.mem_map.mp member
    have isDocument := (mem_documents_iff once).mp inTree
    exact absurd (isDocument.entered "build" (by decide)).2 (by decide)
  · exact ⟨⟨[], rfl⟩, ⟨"llm.txt", rfl, "llm.txt", by decide, rfl⟩, by decide⟩
  · rintro ⟨tree, leads⟩
    cases long.symm.trans leads
  · unfold discover ofPath
    simp only [List.mapM_cons, List.mapM_nil, long]
    rfl

end DocumentSearch

end LlmTxt

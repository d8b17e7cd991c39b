/-
This file says what becomes of a reference that gives a documented symbol its own name: the name of
its module, a dot, and the name of the symbol. The module is known, and the name of the symbol is
known in it, so the reference is documented if nothing longer in it is known. But the name of a
symbol may hold dots, and another module may be called what the reference is up to one of them.
Then that module decides, and the symbol is not looked for where it is declared.
-/

import LlmTxt.Proofs.Example.Known
import LlmTxt.Proofs.Validation.Stages
import Mathlib.Data.Nat.Find

namespace LlmTxt

/-! ### Tables hold symbols under their own modules -/

namespace SymbolTable

/-- Every symbol of a table is under the module that it names. -/
def IsOwn (table : SymbolTable) : Prop :=
  ∀ entry ∈ table.modules, ∀ symbol ∈ entry.2, symbol.module = entry.1

theorem isOwn_empty (source : TableSource) : (empty source).IsOwn :=
  fun _ member => (List.not_mem_nil member).elim

theorem forall_mem_addSymbols_own {module : String} {symbols : List SymbolEntry}
    {known : List (String × List SymbolEntry)} (new : ∀ symbol ∈ symbols, symbol.module = module)
    (own : ∀ entry ∈ known, ∀ symbol ∈ entry.2, symbol.module = entry.1) :
    ∀ entry ∈ addSymbols module symbols known, ∀ symbol ∈ entry.2, symbol.module = entry.1 := by
  fun_induction addSymbols module symbols known with
  | case1 => exact List.forall_mem_singleton.mpr new
  | case2 others rest =>
    obtain ⟨first, further⟩ := List.forall_mem_cons.mp own
    refine List.forall_mem_cons.mpr ⟨?_, further⟩
    exact List.forall_mem_append.mpr ⟨first, new⟩
  | case3 name others rest _ inductionHypothesis =>
    obtain ⟨first, further⟩ := List.forall_mem_cons.mp own
    exact List.forall_mem_cons.mpr ⟨first, inductionHypothesis further⟩

theorem IsOwn.foldl_add {Item : Type} {name : Item → String} {span : Item → Span}
    {symbols : Item → List SymbolEntry} {items : List Item} {table : SymbolTable}
    (own : table.IsOwn) (named : ∀ item ∈ items, ∀ symbol ∈ symbols item,
      symbol.module = name item) :
    (items.foldl (fun table item => table.add (name item) (span item) (symbols item))
      table).IsOwn := by
  induction items generalizing table with
  | nil => exact own
  | cons item rest inductionHypothesis =>
    obtain ⟨first, further⟩ := List.forall_mem_cons.mp named
    exact inductionHypothesis (forall_mem_addSymbols_own first own) further

end SymbolTable

namespace Document

theorem indexTable_isOwn (document : Document) : document.indexTable.IsOwn := by
  unfold indexTable
  split
  · refine (SymbolTable.isOwn_empty .index).foldl_add fun module _ symbol listed => ?_
    obtain ⟨category, _, inCategory⟩ := List.mem_flatMap.mp listed
    obtain ⟨token, _, rfl⟩ := List.mem_map.mp inCategory
    rfl
  · exact SymbolTable.isOwn_empty .index

theorem moduleTable_isOwn {document : Document} {sections : SymbolTable}
    (run : document.moduleTable = .ok sections) : sections.IsOwn := by
  rw [moduleTable_eq] at run
  cases contentsRun : document.moduleContents with
  | error failure => simp [contentsRun, Except.map] at run
  | ok contents =>
    simp only [contentsRun, Except.map, Except.ok.injEq] at run
    rw [← run]
    refine (SymbolTable.isOwn_empty .moduleSections).foldl_add fun content _ symbol declared => ?_
    obtain ⟨declaration, _, rfl⟩ := List.mem_map.mp declared
    rfl

end Document

/-! ### The longest known part -/

namespace Name

theorem IsStart.isPrefix {path reference : List Char} (start : IsStart path reference) :
    path <+: reference := by
  rcases start with rfl | ⟨rest, rfl⟩
  · exact List.prefix_refl _
  · exact List.prefix_append _ _

/-- Two parts of a reference are told apart by their lengths. -/
theorem IsStart.eq_of_length_eq {path other reference : List Char} (start : IsStart path reference)
    (otherStart : IsStart other reference) (same : path.length = other.length) : path = other :=
  (List.prefix_of_prefix_length_le start.isPrefix otherStart.isPrefix
    (Nat.le_of_eq same)).eq_of_length same

end Name

namespace Documented

open Name

variable {index sections : SymbolTable}

/-- A reference of which some part is known has a longest such part. -/
theorem exists_isLongest {path reference : List Char} (start : IsStart path reference)
    (known : Knows index sections path) :
    ∃ longest, IsLongest index sections reference longest ∧ path.length ≤ longest.length := by
  classical
  let HasKnown (length : Nat) : Prop :=
    ∃ part, IsStart part reference ∧ Knows index sections part ∧ part.length = length
  obtain ⟨longest, longestStart, longestKnown, length⟩ : HasKnown _ :=
    Nat.findGreatest_spec start.isPrefix.length_le ⟨path, start, known, rfl⟩
  have notLonger (other : List Char) (otherStart : IsStart other reference)
      (otherKnown : Knows index sections other) : other.length ≤ longest.length :=
    length ▸ Nat.le_findGreatest otherStart.isPrefix.length_le ⟨other, otherStart, otherKnown, rfl⟩
  exact ⟨longest, ⟨longestStart, longestKnown, notLonger⟩, notLonger path start known⟩

theorem IsLongest.unique {path other reference : List Char}
    (longest : IsLongest index sections reference path)
    (otherLongest : IsLongest index sections reference other) : path = other := by
  refine longest.isStart.eq_of_length_eq otherLongest.isStart (Nat.le_antisymm ?_ ?_)
  · exact otherLongest.longest path longest.isStart longest.known
  · exact longest.longest other otherLongest.isStart otherLongest.known

/-! ### Symbols by their own names -/

/-- A longer part of the qualified name of a symbol than its module is known, and decides what
becomes of the name, for what comes behind it is not known with it. -/
structure Overrides (index sections : SymbolTable) (symbol : SymbolEntry)
    (path rest : List Char) : Prop where
  split : symbol.qualifiedName.toList = path ++ '.' :: rest
  longer : symbol.module.toList.length < path.length
  isLongest : IsLongest index sections symbol.qualifiedName.toList path

theorem toList_qualifiedName (symbol : SymbolEntry) :
    symbol.qualifiedName.toList = symbol.module.toList ++ '.' :: symbol.name.toList := by
  simp [SymbolEntry.qualifiedName, String.toList_append]

/-- The part that decides in place of the module ends at a dot of the name of the symbol. -/
theorem Overrides.dot_mem {symbol : SymbolEntry} {path rest : List Char}
    (overrides : Overrides index sections symbol path rest) : '.' ∈ symbol.name.toList := by
  have split := overrides.split
  rw [toList_qualifiedName] at split
  rcases List.append_eq_append_iff.mp split with ⟨further, path_eq, name_eq⟩ | ⟨more, module_eq, _⟩
  · cases further with
    | nil =>
      have longer := overrides.longer
      rw [path_eq, List.append_nil] at longer
      exact absurd longer (Nat.lt_irrefl _)
    | cons dot further =>
      rw [List.cons_append] at name_eq
      rw [(List.cons.inj name_eq).2]
      exact List.mem_append_right further List.mem_cons_self
  · have longer := overrides.longer
    rw [module_eq, List.length_append] at longer
    omega

/-- A symbol of a module is documented under its own name unless another part of that name decides,
and says otherwise. -/
theorem resolves_qualifiedName_iff {entry : String × List SymbolEntry}
    (inTables : entry ∈ index.modules ++ sections.modules) {symbol : SymbolEntry}
    (member : symbol ∈ entry.2) (own : symbol.module = entry.1) :
    (ofTables index sections).resolves symbol.qualifiedName.toList = true ↔
      ∀ path rest, Documented.Overrides index sections symbol path rest →
        NamesSymbol index sections path (firstSegment rest) := by
  rw [resolves_iff]
  constructor
  · rintro ⟨path, isLongest, behind⟩ other rest overrides
    have same := isLongest.unique overrides.isLongest
    exact same ▸ behind rest (same ▸ overrides.split)
  · intro decided
    have isModule : HasModule index sections symbol.module.toList :=
      ⟨entry, inTables, congrArg String.toList own.symm⟩
    have start : IsStart symbol.module.toList symbol.qualifiedName.toList :=
      Or.inr ⟨_, toList_qualifiedName symbol⟩
    obtain ⟨path, isLongest, within⟩ := exists_isLongest start (Or.inl isModule)
    refine ⟨path, isLongest, fun rest split => ?_⟩
    rcases Nat.lt_or_eq_of_le within with longer | same
    · exact decided path rest ⟨split, longer, isLongest⟩
    · have path_eq := start.eq_of_length_eq isLongest.isStart same
      rw [← path_eq, toList_qualifiedName, List.append_cancel_left_eq, List.cons.injEq] at split
      rw [← path_eq, ← split.2]
      exact ⟨entry, inTables, fun _ => congrArg String.toList own.symm, symbol, member,
        List.mem_cons_of_mem _ List.mem_cons_self⟩

end Documented

namespace Document

open Name Documented

/-- A reference that is documented is not reported. -/
theorem not_reported_of_resolves {document : Document} {index sections : SymbolTable}
    {reference : String} (resolves : (ofTables index sections).resolves reference.toList = true)
    (allowed : List String) :
    ∀ diagnostic ∈ document.checkReferences index sections allowed,
      diagnostic.symbol ≠ some reference := by
  intro diagnostic member same
  obtain ⟨found, unresolved, rfl⟩ := List.mem_map.mp member
  have text : found.text = reference := Option.some.inj same
  unfold Document.unresolved at unresolved
  dsimp only at unresolved
  split at unresolved
  · cases unresolved
  · rw [List.mem_filter, text, resolves] at unresolved
    cases unresolved.2

/-- A symbol of either table of a document is documented under its own name, except where a longer
part of that name than its module is known and decides. Names without a dot are therefore always
documented, and what is documented is never reported. -/
theorem ownName_resolves_iff {document : Document} {sections : SymbolTable}
    (run : document.moduleTable = .ok sections) {entry : String × List SymbolEntry}
    (inTables : entry ∈ document.indexTable.modules ++ sections.modules) {symbol : SymbolEntry}
    (member : symbol ∈ entry.2) :
    ((ofTables document.indexTable sections).resolves symbol.qualifiedName.toList = true ↔
        ∀ path rest, Documented.Overrides document.indexTable sections symbol path rest →
          NamesSymbol document.indexTable sections path (firstSegment rest)) ∧
      ('.' ∉ symbol.name.toList →
        (ofTables document.indexTable sections).resolves symbol.qualifiedName.toList = true) ∧
      ((ofTables document.indexTable sections).resolves symbol.qualifiedName.toList = true →
        ∀ allowed, ∀ diagnostic ∈ document.checkReferences document.indexTable sections allowed,
          diagnostic.symbol ≠ some symbol.qualifiedName) := by
  have own : symbol.module = entry.1 := by
    rcases List.mem_append.mp inTables with listed | documented
    · exact document.indexTable_isOwn entry listed symbol member
    · exact moduleTable_isOwn run entry documented symbol member
  have decided := resolves_qualifiedName_iff inTables member own
  refine ⟨decided, fun noDot => ?_, fun resolves => not_reported_of_resolves resolves⟩
  exact decided.mpr fun path rest overrides => absurd overrides.dot_mem noDot

/-- A text that lists a symbol under the name of another module. -/
def sharedNameText : String :=
  "## Index\n- **a**\n  - Classes: \x60b\x60\n- **a.b**\n  - Classes: \x60D\x60\n"

theorem ownName_resolves_of_shared :
    ∃ document sections, ofText sharedNameText = .ok (document, none) ∧
      document.moduleTable = .ok sections ∧
      ∃ entry ∈ document.indexTable.modules ++ sections.modules, ∃ symbol ∈ entry.2,
        symbol.qualifiedName = "a.b" ∧ document.indexTable.contains "a.b" = true ∧
        (ofTables document.indexTable sections).resolves symbol.qualifiedName.toList = true ∧
        ∀ allowed, ∀ diagnostic ∈ document.checkReferences document.indexTable sections allowed,
          diagnostic.symbol ≠ some symbol.qualifiedName := by
  obtain ⟨document, sections, read, run, entry, inTables, symbol, member, name, shared, noDot⟩ :
      ∃ document sections, ofText sharedNameText = .ok (document, none) ∧
        document.moduleTable = .ok sections ∧
        ∃ entry ∈ document.indexTable.modules ++ sections.modules, ∃ symbol ∈ entry.2,
          symbol.qualifiedName = "a.b" ∧ document.indexTable.contains "a.b" = true ∧
            symbol.name.toList.contains '.' = false :=
    ⟨_, _, rfl, rfl, _, List.mem_cons_self, _, List.mem_cons_self, rfl, rfl, rfl⟩
  obtain ⟨-, plain, quiet⟩ := ownName_resolves_iff run inTables member
  have resolves := plain (by simpa using noDot)
  exact ⟨document, sections, read, run, entry, inTables, symbol, member, name, shared, resolves,
    quiet resolves⟩

/-- A text that lists a method of a class, and a module under the name of the class. -/
def overriddenText : String :=
  "## Index\n- **a**\n  - Methods: \x60b.c\x60\n- **a.b**\n  - Classes: \x60D\x60\n"

/-- The module under the name of the class decides, and the method is not documented. -/
theorem overridden_ownName_does_not_resolve :
    ∃ document sections, ofText overriddenText = .ok (document, none) ∧
      document.moduleTable = .ok sections ∧
      ∃ entry ∈ document.indexTable.modules ++ sections.modules, ∃ symbol ∈ entry.2,
        symbol.qualifiedName = "a.b.c" ∧
        (ofTables document.indexTable sections).resolves symbol.qualifiedName.toList = false :=
  ⟨_, _, rfl, rfl, _, List.mem_cons_self, _, List.mem_cons_self, rfl, rfl⟩

end Document

end LlmTxt

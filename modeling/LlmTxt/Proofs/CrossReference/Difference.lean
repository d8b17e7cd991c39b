/-
This file says exactly what is reported between two symbol tables. What can be wrong with them
can be told piece by piece: one kind and name of a module in one table, one name of a module that
both tables have, one module that only one of them has. Each piece says on its own what is to be
reported, and what is reported is the sum of that over all pieces. So nothing is left out and
nothing is said twice, however often names and kinds are repeated.

Reporting goes through lists and takes what comes first; the pieces are taken from finite sets. The
two meet because a table names no module twice, and because the first symbols of the names of a
module are one for each name. The two tables of a document are of that kind, so what its report says
about them is their difference.
-/

import LlmTxt.Proofs.Distinct
import LlmTxt.Proofs.Symbol.Places
import Mathlib.Algebra.BigOperators.Group.Finset.Piecewise
import Mathlib.Algebra.Order.Group.Multiset

namespace LlmTxt

namespace SymbolTable

/-! ### The pieces of a table -/

/-- A table names no module twice. -/
def IsKeyed (table : SymbolTable) : Prop :=
  (table.modules.map (·.1)).Nodup

/-- The modules that a table names. -/
def moduleNames (table : SymbolTable) : Finset String :=
  (table.modules.map (·.1)).toFinset

/-- The symbols of a module; a module that the table does not name has none. -/
def symbolsOf (table : SymbolTable) (module : String) : List SymbolEntry :=
  (table.get? module).getD []

/-- The names of the symbols of a module. -/
def names (table : SymbolTable) (module : String) : Finset String :=
  ((table.symbolsOf module).map (·.name)).toFinset

/-- The kinds of the symbols of a module, each with the name. -/
def keys (table : SymbolTable) (module : String) : Finset (SymbolKind × String) :=
  ((table.symbolsOf module).map fun symbol => (symbol.kind, symbol.name)).toFinset

/-- The symbols of a kind and name in a module, in order. -/
def occurrences (table : SymbolTable) (module : String) (key : SymbolKind × String) :
    List SymbolEntry :=
  (table.symbolsOf module).filter fun symbol => (symbol.kind, symbol.name) == key

/-- The first symbol of a name in a module. -/
def first? (table : SymbolTable) (module name : String) : Option SymbolEntry :=
  (table.symbolsOf module).find? (·.name == name)

end SymbolTable

/-! ### What each piece is to report -/

/-- The diagnostic that words a mismatch, with the severity, the code and the lines under which it
is to be reported. -/
def Mismatch.reportedAs (severity : Severity) (code : Code) (span : Span) (mismatch : Mismatch) :
    Diagnostic :=
  ⟨severity, code.name, mismatch.message, span, mismatch.kind?, some mismatch.symbol⟩

namespace SymbolTable

/-- A kind and name that stands in a module several times is an error at each place but the
first. -/
def repetitions (table : SymbolTable) (module : String) (key : SymbolKind × String) :
    List Diagnostic :=
  match table.occurrences module key with
  | [] => []
  | first :: later => later.map fun symbol =>
    Mismatch.reportedAs .error .duplicateSymbol symbol.span
      (.duplicate table.source symbol first module)

/-- A name that is listed and not documented is an error where it is first listed, one that is
documented and not listed is a warning where it is first documented, and one that is both with
different kinds, both known, is a warning where it is first listed. -/
def nameDifference (index sections : SymbolTable) (module name : String) : List Diagnostic :=
  match index.first? module name, sections.first? module name with
  | none, none => []
  | some listed, none =>
    [Mismatch.reportedAs .error .undocumentedSymbol listed.span (.undocumented listed module)]
  | none, some documented =>
    [Mismatch.reportedAs .warning .unlistedSymbol documented.span (.unlisted documented module)]
  | some listed, some documented =>
    if listed.kind ≠ documented.kind ∧ listed.kind ≠ .unknown ∧ documented.kind ≠ .unknown then
      [Mismatch.reportedAs .warning .kindMismatch listed.span (.kinds listed documented module)]
    else []

/-- A module that only the Index has is an error, and its names together are another, if it has
any. -/
def listedAlone (index : SymbolTable) (module : String) : List Diagnostic :=
  let span := index.moduleSpan module
  let names := ((index.symbolsOf module).map (·.name)).eraseDups
  Mismatch.reportedAs .error .moduleMismatch span (.onlyListed module span) ::
    if names.isEmpty then []
    else [Mismatch.reportedAs .error .undocumentedSymbol span (.listedAlone module names span)]

/-- A module that only the module sections have is an error, and its names together are a warning,
if it has any. -/
def documentedAlone (sections : SymbolTable) (module : String) : List Diagnostic :=
  let span := sections.moduleSpan module
  let names := ((sections.symbolsOf module).map (·.name)).eraseDups
  Mismatch.reportedAs .error .moduleMismatch span (.onlyDocumented module span) ::
    if names.isEmpty then []
    else [Mismatch.reportedAs .warning .unlistedSymbol span (.documentedAlone module names span)]

/-- What is to be reported between two tables, piece by piece: the repetitions in each, the names of
the modules that both have, and the modules that only one has. -/
def difference (index sections : SymbolTable) : Multiset Diagnostic :=
  ∑ module ∈ index.moduleNames, ∑ key ∈ index.keys module,
      (index.repetitions module key : Multiset Diagnostic) +
    ∑ module ∈ sections.moduleNames, ∑ key ∈ sections.keys module,
      (sections.repetitions module key : Multiset Diagnostic) +
    ∑ module ∈ index.moduleNames ∩ sections.moduleNames,
      ∑ name ∈ index.names module ∪ sections.names module,
        (index.nameDifference sections module name : Multiset Diagnostic) +
    ∑ module ∈ index.moduleNames \ sections.moduleNames,
      (index.listedAlone module : Multiset Diagnostic) +
    ∑ module ∈ sections.moduleNames \ index.moduleNames,
      (sections.documentedAlone module : Multiset Diagnostic)

/-! ### Tables without repeated modules -/

theorem isKeyed_empty (source : TableSource) : (empty source).IsKeyed :=
  List.nodup_nil

theorem IsKeyed.add {table : SymbolTable} (keyed : table.IsKeyed) (module : String) (span : Span)
    (symbols : List SymbolEntry) : (table.add module span symbols).IsKeyed := by
  have names : (table.add module span symbols).modules.map (·.1) = _ :=
    map_fst_addSymbols module symbols table.modules
  unfold IsKeyed at keyed ⊢
  rw [names]
  split
  · exact keyed
  · rename_i new
    exact List.nodup_append.mpr ⟨keyed, List.nodup_singleton _, fun known member other last =>
      fun same => new (List.mem_singleton.mp last ▸ same ▸ member)⟩

/-- Tables that are built by adding modules name none twice. -/
theorem isKeyed_foldl_add {Item : Type} (name : Item → String) (span : Item → Span)
    (symbols : Item → List SymbolEntry) (items : List Item) {table : SymbolTable}
    (keyed : table.IsKeyed) :
    (items.foldl (fun table item => table.add (name item) (span item) (symbols item))
      table).IsKeyed := by
  induction items generalizing table with
  | nil => exact keyed
  | cons item rest inductionHypothesis => exact inductionHypothesis (keyed.add _ _ _)

variable {table : SymbolTable}

theorem IsKeyed.symbolsOf_of_mem (keyed : table.IsKeyed) {module : String}
    {symbols : List SymbolEntry} (member : (module, symbols) ∈ table.modules) :
    table.symbolsOf module = symbols := by
  obtain ⟨found, known⟩ := exists_get? (List.mem_map_of_mem (f := (·.1)) member)
  have same : (module, found) = (module, symbols) :=
    List.inj_on_of_nodup_map keyed (mem_of_lookup known) member rfl
  rw [symbolsOf, known, Option.getD_some, (Prod.mk.inj same).2]

theorem mem_moduleNames_iff {module : String} :
    module ∈ table.moduleNames ↔ table.contains module = true := by
  rw [moduleNames, List.mem_toFinset, contains_iff]

/-- To go through the modules of a table in order is to go through their names. -/
theorem IsKeyed.sum_modules (keyed : table.IsKeyed)
    (found : String → List SymbolEntry → List Diagnostic) :
    ((table.modules.flatMap fun entry => found entry.1 entry.2 : List Diagnostic) :
        Multiset Diagnostic) =
      ∑ module ∈ table.moduleNames,
        (found module (table.symbolsOf module) : Multiset Diagnostic) := by
  rw [moduleNames, List.sum_toFinset _ keyed, ← Multiset.coe_bind, Multiset.bind,
    Multiset.map_coe, Multiset.join, Multiset.sum_coe, List.map_map]
  refine congrArg List.sum (List.map_congr_left fun entry member => ?_)
  rw [Function.comp_apply, keyed.symbolsOf_of_mem member]

/-! ### Repetitions -/

/-- What a list holds is what it holds under each of some keys, if all keys of it are among them. -/
theorem coe_eq_sum_filter {Item Key : Type} [BEq Key] [LawfulBEq Key] [DecidableEq Key]
    (key : Item → Key)
    {items : List Item} {keys : Finset Key} (known : ∀ item ∈ items, key item ∈ keys) :
    (items : Multiset Item) =
      ∑ own ∈ keys, (items.filter (fun item => key item == own) : Multiset Item) := by
  induction items with
  | nil => simp
  | cons item rest inductionHypothesis =>
    obtain ⟨own, others⟩ := List.forall_mem_cons.mp known
    have split (other : Key) :
        ((item :: rest).filter (fun item => key item == other) : Multiset Item) =
          (if key item = other then {item} else 0) +
            (rest.filter (fun item => key item == other) : Multiset Item) := by
      by_cases same : key item = other <;> simp [same]
    rw [Finset.sum_congr rfl fun other _ => split other, Finset.sum_add_distrib,
      Finset.sum_ite_eq, if_pos own, ← inductionHypothesis others]
    rfl

theorem repeatedSymbols_cons (seen : List SymbolEntry) (symbol : SymbolEntry)
    (rest : List SymbolEntry) :
    repeatedSymbols seen (symbol :: rest) =
      (seen.find? fun other => (other.kind, other.name) == (symbol.kind, symbol.name)).elim
        (repeatedSymbols (seen ++ [symbol]) rest)
        fun first => (symbol, first) :: repeatedSymbols (seen ++ [symbol]) rest := by
  have same : (fun other : SymbolEntry =>
      (other.kind, other.name) == (symbol.kind, symbol.name)) =
        fun other => other.kind == symbol.kind && other.name == symbol.name := rfl
  rw [repeatedSymbols, same]
  cases seen.find? fun other => other.kind == symbol.kind && other.name == symbol.name <;> rfl

/-- Of one kind and name, all symbols behind the first are found, each with the first. -/
theorem filter_repeatedSymbols (key : SymbolKind × String) (seen symbols : List SymbolEntry) :
    (repeatedSymbols seen symbols).filter (fun pair => (pair.1.kind, pair.1.name) == key) =
      match seen.find? (fun symbol => (symbol.kind, symbol.name) == key),
        symbols.filter (fun symbol => (symbol.kind, symbol.name) == key) with
      | some first, own => own.map (·, first)
      | none, [] => []
      | none, first :: later => later.map (·, first) := by
  induction symbols generalizing seen with
  | nil => cases seen.find? _ <;> rfl
  | cons symbol rest inductionHypothesis =>
    have further := inductionHypothesis (seen ++ [symbol])
    rw [List.find?_append, List.find?_singleton] at further
    rw [repeatedSymbols_cons]
    by_cases own : ((symbol.kind, symbol.name) == key) = true
    · have kept : (symbol :: rest).filter (fun other => (other.kind, other.name) == key) =
          symbol :: rest.filter (fun other => (other.kind, other.name) == key) :=
        List.filter_cons_of_pos own
      rw [if_pos own] at further
      rw [kept, eq_of_beq own]
      cases before : seen.find? (fun other => (other.kind, other.name) == key) with
      | none =>
        rw [before] at further
        exact further
      | some first =>
        rw [before] at further
        have again : ((symbol, first) :: repeatedSymbols (seen ++ [symbol]) rest).filter
            (fun pair => (pair.1.kind, pair.1.name) == key) = (symbol, first) :: _ :=
          List.filter_cons_of_pos own
        exact again.trans (congrArg ((symbol, first) :: ·) further)
    · have dropped : (symbol :: rest).filter (fun other => (other.kind, other.name) == key) =
          rest.filter (fun other => (other.kind, other.name) == key) :=
        List.filter_cons_of_neg own
      rw [if_neg own, Option.or_none] at further
      rw [dropped, ← further]
      cases seen.find? fun other => (other.kind, other.name) == (symbol.kind, symbol.name) with
      | none => rfl
      | some first => exact List.filter_cons_of_neg own

/-- The symbols of a module that are declared again are the repetitions of its kinds and names. -/
theorem coe_map_repeatedSymbols (table : SymbolTable) (module : String) :
    ((repeatedSymbols [] (table.symbolsOf module)).map fun pair =>
        (Mismatch.duplicate table.source pair.1 pair.2 module).diagnostic : Multiset Diagnostic) =
      ∑ key ∈ table.keys module, (table.repetitions module key : Multiset Diagnostic) := by
  have known : ∀ pair ∈ repeatedSymbols [] (table.symbolsOf module),
      (pair.1.kind, pair.1.name) ∈ table.keys module := by
    intro pair member
    rw [keys, List.mem_toFinset]
    exact List.mem_map_of_mem (mem_of_mem_repeatedSymbols member)
  have split := congrArg (Multiset.mapAddMonoidHom fun pair : SymbolEntry × SymbolEntry =>
      (Mismatch.duplicate table.source pair.1 pair.2 module).diagnostic)
    (coe_eq_sum_filter (fun pair : SymbolEntry × SymbolEntry => (pair.1.kind, pair.1.name)) known)
  rw [map_sum] at split
  refine split.trans (Finset.sum_congr rfl fun key _ => ?_)
  rw [filter_repeatedSymbols]
  unfold repetitions occurrences
  rw [List.find?_nil]
  cases (table.symbolsOf module).filter fun symbol => (symbol.kind, symbol.name) == key with
  | nil => rfl
  | cons first later => exact congrArg _ (List.map_map ..)

/-! ### First symbols -/

theorem firstByName_concat (earlier : List SymbolEntry) (last : SymbolEntry) :
    firstByName (earlier ++ [last]) =
      if (firstByName earlier).any (·.name == last.name) then firstByName earlier
      else firstByName earlier ++ [last] := by
  unfold firstByName
  rw [List.foldl_append, List.foldl_cons, List.foldl_nil]

theorem name_of_find? {symbols : List SymbolEntry} {name : String} {symbol : SymbolEntry}
    (found : symbols.find? (·.name == name) = some symbol) : symbol.name = name := by
  have same := List.find?_some found
  exact eq_of_beq same

/-- The first symbols of all names are the first symbols of the names. -/
theorem find?_firstByName (symbols : List SymbolEntry) (name : String) :
    (firstByName symbols).find? (·.name == name) = symbols.find? (·.name == name) := by
  induction symbols using List.reverseRecOn with
  | nil => rfl
  | append_singleton earlier last inductionHypothesis =>
    rw [firstByName_concat, List.find?_append, ← inductionHypothesis]
    split
    · rename_i known
      by_cases own : (last.name == name) = true
      · rw [eq_of_beq own, List.any_eq_true, ← List.find?_isSome] at known
        rw [Option.or_of_isSome known]
      · rw [List.find?_singleton, if_neg own, Option.or_none]
    · rw [List.find?_append]

/-- The first symbols of all names have each name once, in the order in which the names come. -/
theorem map_name_firstByName (symbols : List SymbolEntry) :
    (firstByName symbols).map (·.name) = (symbols.map (·.name)).eraseDups := by
  induction symbols using List.reverseRecOn with
  | nil => rfl
  | append_singleton earlier last inductionHypothesis =>
    have known : (firstByName earlier).any (·.name == last.name) = true ↔
        last.name ∈ earlier.map (·.name) := by
      rw [← List.mem_eraseDups, ← inductionHypothesis]
      simp
    rw [firstByName_concat, List.map_append, List.map_singleton, eraseDups_concat,
      ← inductionHypothesis, if_congr known rfl rfl]
    split
    · rfl
    · rw [List.map_append, List.map_singleton]

/-- To go through the first symbols of all names is to go through the names. -/
theorem sum_firstByName (symbols : List SymbolEntry) {names : Finset String}
    (known : ∀ symbol ∈ symbols, symbol.name ∈ names) (found : SymbolEntry → List Diagnostic) :
    (((firstByName symbols).flatMap found : List Diagnostic) : Multiset Diagnostic) =
      ∑ name ∈ names,
        (((symbols.find? (·.name == name)).elim [] found : List Diagnostic) :
          Multiset Diagnostic) := by
  have distinct : ((firstByName symbols).map (·.name)).Nodup := by
    rw [map_name_firstByName]
    exact nodup_eraseDups _
  have unknown : ∀ name ∈ names, name ∉ ((firstByName symbols).map (·.name)).toFinset →
      (((symbols.find? (·.name == name)).elim [] found : List Diagnostic) :
        Multiset Diagnostic) = 0 := by
    intro name _ other
    rw [List.mem_toFinset, map_name_firstByName, List.mem_eraseDups] at other
    have none : symbols.find? (·.name == name) = none := by
      simpa using other
    rw [none]
    rfl
  have first : ((firstByName symbols).map (·.name)).toFinset ⊆ names := by
    intro name member
    rw [List.mem_toFinset, map_name_firstByName, List.mem_eraseDups, List.mem_map] at member
    obtain ⟨symbol, inSymbols, rfl⟩ := member
    exact known symbol inSymbols
  rw [← Finset.sum_subset first unknown, List.sum_toFinset _ distinct, ← Multiset.coe_bind,
    Multiset.bind, Multiset.map_coe, Multiset.join, Multiset.sum_coe, List.map_map]
  refine congrArg List.sum (List.map_congr_left fun symbol member => ?_)
  have counterpart : (firstByName symbols).find? (·.name == symbol.name) = some symbol := by
    cases run : (firstByName symbols).find? (·.name == symbol.name) with
    | none => exact absurd (beq_self_eq_true _) (List.find?_eq_none.mp run symbol member)
    | some other =>
      rw [List.inj_on_of_nodup_map distinct (List.mem_of_find?_eq_some run) member
        (name_of_find? run)]
  rw [Function.comp_apply, ← find?_firstByName, counterpart]
  rfl

/-! ### Modules that both tables have -/

/-- What is to be reported where a name is first listed. -/
def listedDifference (sections : SymbolTable) (module : String) (listed : SymbolEntry) :
    List Diagnostic :=
  match sections.first? module listed.name with
  | none => [Mismatch.diagnostic (.undocumented listed module)]
  | some documented =>
    if kindsConflict listed.kind documented.kind then
      [Mismatch.diagnostic (.kinds listed documented module)]
    else []

/-- What is to be reported where a name is first documented. -/
def documentedDifference (index : SymbolTable) (module : String) (documented : SymbolEntry) :
    List Diagnostic :=
  if (index.first? module documented.name).isSome then []
  else [Mismatch.diagnostic (.unlisted documented module)]

theorem map_diagnostic_compareModule (index sections : SymbolTable) (module : String) :
    (compareModule module (index.symbolsOf module) (sections.symbolsOf module)).map
        Mismatch.diagnostic =
      (firstByName (index.symbolsOf module)).flatMap (sections.listedDifference module) ++
        (firstByName (sections.symbolsOf module)).flatMap (index.documentedDifference module) := by
  unfold compareModule
  rw [List.map_append, List.filterMap_eq_flatMap_toList, List.filterMap_eq_flatMap_toList,
    List.map_flatMap, List.map_flatMap]
  congr 2
  · funext listed
    rw [listedDifference, first?, find?_firstByName]
    cases (sections.symbolsOf module).find? (·.name == listed.name) with
    | none => rfl
    | some documented =>
      dsimp only
      split <;> rfl
  · funext documented
    have known : (firstByName (index.symbolsOf module)).any (·.name == documented.name) =
        (index.first? module documented.name).isSome := by
      rw [first?, ← find?_firstByName, Bool.eq_iff_iff, List.find?_isSome, List.any_eq_true]
    rw [documentedDifference, known]
    split <;> rfl

theorem kindsConflict_iff {first second : SymbolKind} :
    kindsConflict first second = true ↔
      first ≠ second ∧ first ≠ .unknown ∧ second ≠ .unknown := by
  unfold kindsConflict
  rw [Bool.and_eq_true, Bool.and_eq_true, bne_iff_ne, bne_iff_ne, bne_iff_ne, and_comm]

/-- What is to be reported about a name is what is to be reported at its first places. -/
theorem nameDifference_eq (index sections : SymbolTable) (module name : String) :
    index.nameDifference sections module name =
      (index.first? module name).elim [] (sections.listedDifference module) ++
        (sections.first? module name).elim [] (index.documentedDifference module) := by
  unfold nameDifference
  cases listed : index.first? module name with
  | none =>
    cases documented : sections.first? module name with
    | none => rfl
    | some symbol =>
      rw [Option.elim_none, Option.elim_some, documentedDifference, name_of_find? documented, listed]
      rfl
  | some symbol =>
    cases documented : sections.first? module name with
    | none =>
      rw [Option.elim_none, Option.elim_some, listedDifference, name_of_find? listed, documented]
      rfl
    | some counterpart =>
      rw [Option.elim_some, Option.elim_some, listedDifference, documentedDifference,
        name_of_find? listed, name_of_find? documented, listed, documented]
      dsimp only
      rw [if_congr kindsConflict_iff rfl rfl, Option.isSome_some, if_pos rfl, List.append_nil]
      rfl

/-- Comparing a module of both tables reports what is to be reported about each of its names. -/
theorem coe_map_compareModule (index sections : SymbolTable) (module : String) :
    ((compareModule module (index.symbolsOf module) (sections.symbolsOf module)).map
        Mismatch.diagnostic : Multiset Diagnostic) =
      ∑ name ∈ index.names module ∪ sections.names module,
        (index.nameDifference sections module name : Multiset Diagnostic) := by
  have ofListed : ∀ symbol ∈ index.symbolsOf module,
      symbol.name ∈ index.names module ∪ sections.names module := fun symbol member =>
    Finset.mem_union_left _ (List.mem_toFinset.mpr (List.mem_map_of_mem member))
  have ofDocumented : ∀ symbol ∈ sections.symbolsOf module,
      symbol.name ∈ index.names module ∪ sections.names module := fun symbol member =>
    Finset.mem_union_right _ (List.mem_toFinset.mpr (List.mem_map_of_mem member))
  rw [map_diagnostic_compareModule, ← Multiset.coe_add, sum_firstByName _ ofListed,
    sum_firstByName _ ofDocumented, ← Finset.sum_add_distrib]
  refine Finset.sum_congr rfl fun name _ => ?_
  rw [nameDifference_eq, ← Multiset.coe_add]
  rfl

/-! ### Modules that one table has -/

theorem isEmpty_eraseDups_map_name (symbols : List SymbolEntry) :
    ((symbols.map (·.name)).eraseDups).isEmpty = symbols.isEmpty := by
  cases symbols with
  | nil => rfl
  | cons symbol rest => rw [List.map_cons, List.eraseDups_cons]; rfl

theorem map_diagnostic_listedOnly (index : SymbolTable) (module : String) :
    (index.listedOnly module (index.symbolsOf module)).map Mismatch.diagnostic =
      index.listedAlone module := by
  unfold listedOnly listedAlone
  dsimp only
  rw [isEmpty_eraseDups_map_name, map_name_firstByName]
  split <;> rfl

theorem map_diagnostic_documentedOnly (sections : SymbolTable) (module : String) :
    (sections.documentedOnly module (sections.symbolsOf module)).map Mismatch.diagnostic =
      sections.documentedAlone module := by
  unfold documentedOnly documentedAlone
  dsimp only
  rw [isEmpty_eraseDups_map_name, map_name_firstByName]
  split <;> rfl

/-! ### The difference -/

/-- What is wrong with a module of the Index, with the symbols that are listed for it. -/
def ofListedModule (index sections : SymbolTable) (module : String) (listed : List SymbolEntry) :
    List Mismatch :=
  match sections.get? module with
  | none => index.listedOnly module listed
  | some documented => compareModule module listed documented

/-- What is wrong with a module of the module sections alone, with the symbols that are documented
for it. -/
def ofDocumentedModule (index sections : SymbolTable) (module : String)
    (documented : List SymbolEntry) : List Mismatch :=
  if index.contains module then [] else sections.documentedOnly module documented

theorem resolve_eq (index sections : SymbolTable) :
    index.resolve sections =
      index.duplicates.map Mismatch.diagnostic ++ sections.duplicates.map Mismatch.diagnostic ++
        index.modules.flatMap (fun entry =>
          (index.ofListedModule sections entry.1 entry.2).map Mismatch.diagnostic) ++
        sections.modules.flatMap (fun entry =>
          (index.ofDocumentedModule sections entry.1 entry.2).map Mismatch.diagnostic) := by
  unfold resolve mismatches
  rw [List.map_append, List.map_append, List.map_append, List.map_flatMap, List.map_flatMap]
  rfl

theorem IsKeyed.coe_duplicates {table : SymbolTable} (keyed : table.IsKeyed) :
    (table.duplicates.map Mismatch.diagnostic : Multiset Diagnostic) =
      ∑ module ∈ table.moduleNames, ∑ key ∈ table.keys module,
        (table.repetitions module key : Multiset Diagnostic) := by
  have modules : table.duplicates.map Mismatch.diagnostic = table.modules.flatMap fun entry =>
      (repeatedSymbols [] entry.2).map fun pair =>
        (Mismatch.duplicate table.source pair.1 pair.2 entry.1).diagnostic := by
    rw [duplicates, List.map_flatMap]
    exact List.flatMap_congr fun entry _ => List.map_map ..
  rw [modules, keyed.sum_modules fun module symbols => (repeatedSymbols [] symbols).map fun pair =>
    (Mismatch.duplicate table.source pair.1 pair.2 module).diagnostic]
  exact Finset.sum_congr rfl fun module _ => coe_map_repeatedSymbols table module

/-- The modules of the Index are compared name by name if both tables have them, and as a whole
otherwise. -/
theorem IsKeyed.coe_ofListedModule {index : SymbolTable} (keyed : index.IsKeyed)
    (sections : SymbolTable) :
    ((index.modules.flatMap fun entry =>
        (index.ofListedModule sections entry.1 entry.2).map Mismatch.diagnostic :
          List Diagnostic) : Multiset Diagnostic) =
      ∑ module ∈ index.moduleNames ∩ sections.moduleNames,
          ∑ name ∈ index.names module ∪ sections.names module,
            (index.nameDifference sections module name : Multiset Diagnostic) +
        ∑ module ∈ index.moduleNames \ sections.moduleNames,
          (index.listedAlone module : Multiset Diagnostic) := by
  rw [keyed.sum_modules fun module symbols =>
      (index.ofListedModule sections module symbols).map Mismatch.diagnostic,
    ← Finset.sum_inter_add_sum_sdiff _ sections.moduleNames]
  congr 1
  · refine Finset.sum_congr rfl fun module member => ?_
    have known := mem_moduleNames_iff.mp (Finset.mem_of_mem_inter_right member)
    obtain ⟨documented, found⟩ := Option.isSome_iff_exists.mp known
    have own : sections.symbolsOf module = documented := by rw [symbolsOf, found, Option.getD_some]
    rw [ofListedModule, found, ← coe_map_compareModule, own]
  · refine Finset.sum_congr rfl fun module member => ?_
    have unknown := mt mem_moduleNames_iff.mpr (Finset.mem_sdiff.mp member).2
    rw [contains, Option.not_isSome_iff_eq_none] at unknown
    rw [ofListedModule, unknown, ← map_diagnostic_listedOnly]

/-- The modules of the module sections are compared again only if the Index does not have them. -/
theorem IsKeyed.coe_ofDocumentedModule {sections : SymbolTable} (keyed : sections.IsKeyed)
    (index : SymbolTable) :
    ((sections.modules.flatMap fun entry =>
        (index.ofDocumentedModule sections entry.1 entry.2).map Mismatch.diagnostic :
          List Diagnostic) : Multiset Diagnostic) =
      ∑ module ∈ sections.moduleNames \ index.moduleNames,
        (sections.documentedAlone module : Multiset Diagnostic) := by
  rw [keyed.sum_modules fun module symbols =>
      (index.ofDocumentedModule sections module symbols).map Mismatch.diagnostic,
    ← Finset.sum_inter_add_sum_sdiff _ index.moduleNames, Finset.sum_eq_zero, zero_add]
  · refine Finset.sum_congr rfl fun module member => ?_
    have unknown := mt mem_moduleNames_iff.mpr (Finset.mem_sdiff.mp member).2
    rw [ofDocumentedModule, if_neg unknown, map_diagnostic_documentedOnly]
  · intro module member
    have known := mem_moduleNames_iff.mp (Finset.mem_of_mem_inter_right member)
    rw [ofDocumentedModule, if_pos known]
    rfl

/-- What is reported between two tables is their difference. -/
theorem coe_resolve {index sections : SymbolTable} (listed : index.IsKeyed)
    (documented : sections.IsKeyed) :
    (index.resolve sections : Multiset Diagnostic) = index.difference sections := by
  rw [resolve_eq, ← Multiset.coe_add, ← Multiset.coe_add, ← Multiset.coe_add,
    listed.coe_duplicates, documented.coe_duplicates, listed.coe_ofListedModule sections,
    documented.coe_ofDocumentedModule index, difference, ← add_assoc]

end SymbolTable

/-! ### The tables of a document -/

namespace Document

theorem indexTable_isKeyed (document : Document) : document.indexTable.IsKeyed := by
  unfold indexTable
  split
  · exact SymbolTable.isKeyed_foldl_add _ _ _ _ (SymbolTable.isKeyed_empty _)
  · exact SymbolTable.isKeyed_empty _

theorem moduleTable_isKeyed {document : Document} {sections : SymbolTable}
    (run : document.moduleTable = .ok sections) : sections.IsKeyed := by
  rw [moduleTable_eq] at run
  cases contentsRun : document.moduleContents with
  | error failure => simp [contentsRun, Except.map] at run
  | ok contents =>
    simp only [contentsRun, Except.map, Except.ok.injEq] at run
    rw [← run]
    exact SymbolTable.isKeyed_foldl_add _ _ _ _ (SymbolTable.isKeyed_empty _)

end Document

namespace Diagnostic

/-- Whether a diagnostic is under a code of the comparison of two tables. -/
def isOfTables (diagnostic : Diagnostic) : Bool :=
  [Code.undocumentedSymbol, .unlistedSymbol, .duplicateSymbol, .moduleMismatch, .kindMismatch].any
    fun code => diagnostic.code == code.name

theorem isOfTables_iff {diagnostic : Diagnostic} :
    diagnostic.isOfTables = true ↔ diagnostic.IsOf [.undocumentedSymbol, .unlistedSymbol,
      .duplicateSymbol, .moduleMismatch, .kindMismatch] := by
  simp only [isOfTables, List.any_eq_true, beq_iff_eq, IsOf]

/-- Nothing under other codes is about the comparison of two tables. -/
theorem filter_isOfTables_of_isOf {codes : List Code} {diagnostics : List Diagnostic}
    (known : ∀ diagnostic ∈ diagnostics, diagnostic.IsOf codes)
    (others : ∀ code ∈ codes, code ∉ [Code.undocumentedSymbol, .unlistedSymbol, .duplicateSymbol,
      .moduleMismatch, .kindMismatch]) : diagnostics.filter isOfTables = [] := by
  refine List.filter_eq_nil_iff.mpr fun diagnostic member ofTables => ?_
  obtain ⟨own, among, same⟩ := isOfTables_iff.mp ofTables
  exact (known diagnostic member).code_ne (fun inCodes => others own inCodes among) same

end Diagnostic

/-- What a report says about the two tables of its document is their difference, whatever the
settings are and whatever else it says. -/
theorem Document.coe_filter_isOfTables {text : String} {settings : Settings}
    {source : Option String} {report : Report} (run : validate text settings source = .ok report)
    {document : Document} (read : ofText text = .ok (document, none)) {sections : SymbolTable}
    (tableRun : document.moduleTable = .ok sections) :
    (report.diagnostics.filter Diagnostic.isOfTables : Multiset Diagnostic) =
      document.indexTable.difference sections := by
  rcases validate_cases run with ⟨other, defect, readOther, -⟩ |
    ⟨other, otherSections, declarations, readOther, otherRun, declared, rfl⟩
  · cases read.symm.trans readOther
  · cases read.symm.trans readOther
    cases tableRun.symm.trans otherRun
    rw [← SymbolTable.coe_resolve document.indexTable_isKeyed (moduleTable_isKeyed tableRun)]
    refine Quotient.sound (((Findings.merged_perm _).filter _).trans (.of_eq ?_))
    have all : (document.indexTable.resolve sections).filter Diagnostic.isOfTables =
        document.indexTable.resolve sections :=
      List.filter_eq_self.mpr fun diagnostic member =>
        Diagnostic.isOfTables_iff.mpr (SymbolTable.resolve_codes member)
    simp only [stages, List.flatten_cons, List.flatten_nil, List.filter_append, List.append_nil, all]
    rw [Diagnostic.filter_isOfTables_of_isOf (fun _ => Frontmatter.check_codes) (by decide),
      Diagnostic.filter_isOfTables_of_isOf (fun _ => checkSections_codes) (by decide),
      Diagnostic.filter_isOfTables_of_isOf (fun _ => checkDeclarations_codes declared) (by decide),
      Diagnostic.filter_isOfTables_of_isOf (fun _ => checkReferences_codes) (by decide)]
    exact List.append_nil _

end LlmTxt

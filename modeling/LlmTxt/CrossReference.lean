/-
This file compares the table of the Index with that of the module sections. A module
has to be in both, and so has every symbol of a module, by name. Symbols of one name
should be of one kind, unless one is unknown. In one table no name of a kind may
stand twice in a module. Where a name stands more than once, the first counts.
-/

import LlmTxt.Diagnostic
import LlmTxt.Symbol.Table

namespace LlmTxt

/-- What can be wrong between two tables. -/
inductive Mismatch where
  /-- A symbol is declared again in a module. -/
  | duplicate (source : TableSource) (symbol first : SymbolEntry) (module : String)
  /-- A module is only in the Index. -/
  | onlyListed (module : String) (span : Span)
  /-- The symbols of a module that is only in the Index. -/
  | listedAlone (module : String) (names : List String) (span : Span)
  /-- A module is only among the module sections. -/
  | onlyDocumented (module : String) (span : Span)
  /-- The symbols of a module that is only among the module sections. -/
  | documentedAlone (module : String) (names : List String) (span : Span)
  /-- A symbol is listed and not documented. -/
  | undocumented (symbol : SymbolEntry) (module : String)
  /-- A symbol is documented and not listed. -/
  | unlisted (symbol : SymbolEntry) (module : String)
  /-- A symbol is listed and documented with different kinds. -/
  | kinds (listed documented : SymbolEntry) (module : String)
deriving DecidableEq, Repr

namespace Mismatch

/-- Names in single quotes, with commas between them. -/
def enumerate (names : List String) : String :=
  ", ".intercalate (names.map fun name => "'" ++ name ++ "'")

/-- The code under which a mismatch is reported. -/
def code : Mismatch → Code
  | duplicate .. => .duplicateSymbol
  | onlyListed .. | onlyDocumented .. => .moduleMismatch
  | listedAlone .. | undocumented .. => .undocumentedSymbol
  | documentedAlone .. | unlisted .. => .unlistedSymbol
  | kinds .. => .kindMismatch

/-- How grave a mismatch is. -/
def severity : Mismatch → Severity
  | duplicate .. | onlyListed .. | listedAlone .. | onlyDocumented .. | undocumented .. => .error
  | documentedAlone .. | unlisted .. | kinds .. => .warning

/-- The wording of a mismatch. -/
def message : Mismatch → String
  | duplicate source symbol first module =>
    symbol.kind.name ++ " '" ++ symbol.name ++ "' appears more than once in module '" ++
      module ++ "' of " ++ source.label ++ " (first on line " ++
      toString first.span.first ++ ")"
  | onlyListed module _ =>
    "Module '" ++ module ++ "' is listed in the Index but has no '### Module: " ++ module ++
      "' section"
  | listedAlone module names _ =>
    "Symbols listed for module '" ++ module ++ "' have no Module Section entries: " ++
      enumerate names
  | onlyDocumented module _ =>
    "Module '" ++ module ++ "' has a Module Section but is not listed in the Index"
  | documentedAlone module names _ =>
    "Symbols documented for module '" ++ module ++ "' are not listed in the Index: " ++
      enumerate names
  | undocumented symbol module =>
    symbol.kind.name ++ " '" ++ symbol.name ++ "' is listed in the Index under '" ++ module ++
      "' but has no entry in its Module Section"
  | unlisted symbol module =>
    symbol.kind.name ++ " '" ++ symbol.name ++ "' is documented in module '" ++ module ++
      "' but not listed in the Index"
  | kinds listed documented module =>
    "'" ++ listed.name ++ "' in '" ++ module ++ "' is listed as " ++ listed.kind.name ++
      " in the Index but documented as " ++ documented.kind.name ++ " on line " ++
      toString documented.span.first

/-- The lines that a mismatch is about. -/
def span : Mismatch → Span
  | duplicate _ symbol _ _ => symbol.span
  | onlyListed _ span => span
  | listedAlone _ _ span => span
  | onlyDocumented _ span => span
  | documentedAlone _ _ span => span
  | undocumented symbol _ => symbol.span
  | unlisted symbol _ => symbol.span
  | kinds listed _ _ => listed.span

/-- The kind of section that a mismatch concerns. -/
def kind? : Mismatch → Option SectionKind
  | duplicate source _ _ _ => source.kind?
  | onlyListed .. | listedAlone .. | undocumented .. | kinds .. => some .index
  | onlyDocumented .. | documentedAlone .. | unlisted .. => some .moduleSection

/-- The symbol or module that a mismatch concerns. -/
def symbol : Mismatch → String
  | duplicate _ symbol _ _ => symbol.qualifiedName
  | onlyListed module _ => module
  | listedAlone module _ _ => module
  | onlyDocumented module _ => module
  | documentedAlone module _ _ => module
  | undocumented symbol _ => symbol.qualifiedName
  | unlisted symbol _ => symbol.qualifiedName
  | kinds listed _ _ => listed.qualifiedName

/-- The diagnostic that reports a mismatch. -/
def diagnostic (mismatch : Mismatch) : Diagnostic :=
  ⟨mismatch.severity, mismatch.code.name, mismatch.message, mismatch.span, mismatch.kind?,
    some mismatch.symbol⟩

end Mismatch

namespace SymbolTable

/-- The symbols that come after another of the same kind and name, each with the first such.
`seen` holds the symbols before. -/
def repeatedSymbols (seen : List SymbolEntry) :
    List SymbolEntry → List (SymbolEntry × SymbolEntry)
  | [] => []
  | symbol :: rest =>
    let more := repeatedSymbols (seen ++ [symbol]) rest
    match seen.find? fun earlier =>
      earlier.kind == symbol.kind && earlier.name == symbol.name with
    | none => more
    | some first => (symbol, first) :: more

/-- The symbols that stand more than once in a module of a table. -/
def duplicates (table : SymbolTable) : List Mismatch :=
  table.modules.flatMap fun entry =>
    (repeatedSymbols [] entry.2).map fun pair => .duplicate table.source pair.1 pair.2 entry.1

/-- The symbols of a module without those whose name has come before. -/
def firstByName (symbols : List SymbolEntry) : List SymbolEntry :=
  symbols.foldl (fun known symbol =>
    if known.any (·.name == symbol.name) then known else known ++ [symbol]) []

/-- Whether two kinds are different, and both known. -/
def kindsConflict (first second : SymbolKind) : Bool :=
  first != .unknown && second != .unknown && first != second

/-- The mismatches of a module that is only in the Index. -/
def listedOnly (index : SymbolTable) (module : String) (symbols : List SymbolEntry) :
    List Mismatch :=
  let span := index.moduleSpan module
  .onlyListed module span ::
    if symbols.isEmpty then []
    else [.listedAlone module ((firstByName symbols).map (·.name)) span]

/-- The mismatches of a module that is only among the module sections. -/
def documentedOnly (sections : SymbolTable) (module : String) (symbols : List SymbolEntry) :
    List Mismatch :=
  let span := sections.moduleSpan module
  .onlyDocumented module span ::
    if symbols.isEmpty then []
    else [.documentedAlone module ((firstByName symbols).map (·.name)) span]

/-- The mismatches of a module that is in both tables. -/
def compareModule (module : String) (listed documented : List SymbolEntry) : List Mismatch :=
  let listed := firstByName listed
  let documented := firstByName documented
  let ofListed := listed.filterMap fun symbol =>
    match documented.find? (·.name == symbol.name) with
    | none => some (Mismatch.undocumented symbol module)
    | some counterpart =>
      if kindsConflict symbol.kind counterpart.kind then some (.kinds symbol counterpart module)
      else none
  let ofDocumented := documented.filterMap fun symbol =>
    if listed.any (·.name == symbol.name) then none else some (Mismatch.unlisted symbol module)
  ofListed ++ ofDocumented

/-- The mismatches between the table of the Index and that of the module sections: first those
inside each table, then those of each module in the order of the Index, then those of modules
that only the module sections have. -/
def mismatches (index sections : SymbolTable) : List Mismatch :=
  let ofIndex := index.modules.flatMap fun entry =>
    match sections.get? entry.1 with
    | none => index.listedOnly entry.1 entry.2
    | some documented => compareModule entry.1 entry.2 documented
  let ofSections := sections.modules.flatMap fun entry =>
    if index.contains entry.1 then [] else sections.documentedOnly entry.1 entry.2
  index.duplicates ++ sections.duplicates ++ ofIndex ++ ofSections

/-- The diagnostics of the mismatches between two tables. -/
def resolve (index sections : SymbolTable) : List Diagnostic :=
  (index.mismatches sections).map Mismatch.diagnostic

end SymbolTable

end LlmTxt

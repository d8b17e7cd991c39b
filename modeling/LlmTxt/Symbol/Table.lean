/-
This file holds symbol tables: the modules of a document, each with the symbols that
one part of the document declares for it. A table keeps the order in which modules
and symbols are declared, and knows where each module is introduced even if it
declares nothing.
-/

import LlmTxt.Section.Kind
import LlmTxt.Span
import LlmTxt.Symbol.Kind

namespace LlmTxt

/-- The part of a document that a table is built from. A table from outside may have another
name. -/
inductive TableSource where
  | index
  | moduleSections
  | other (name : String)
deriving DecidableEq, Repr

namespace TableSource

/-- The name by which a source is cited. -/
def name : TableSource → String
  | .index => "index"
  | .moduleSections => "module_sections"
  | .other name => name

/-- The source that a name cites. -/
def ofName : String → TableSource
  | "index" => .index
  | "module_sections" => .moduleSections
  | another => .other another

/-- The name by which messages call a source. -/
def label : TableSource → String
  | .index => "the Index"
  | .moduleSections => "the Module Sections"
  | .other name => name

/-- The kind of section that a diagnostic about a source concerns. -/
def kind? : TableSource → Option SectionKind
  | .index => some .index
  | .moduleSections => some .moduleSection
  | .other _ => none

end TableSource

/-- A symbol that a document declares. -/
structure SymbolEntry where
  module : String
  kind : SymbolKind
  name : String
  signature : Option String
  span : Span
deriving DecidableEq, Repr

/-- The name of a symbol with its module before it. -/
def SymbolEntry.qualifiedName (symbol : SymbolEntry) : String :=
  symbol.module ++ "." ++ symbol.name

/-- The modules that one part of a document declares, with their symbols. -/
structure SymbolTable where
  source : TableSource
  modules : List (String × List SymbolEntry)
  moduleSpans : List (String × Span)
deriving Repr

namespace SymbolTable

/-- The table without any module. -/
def empty (source : TableSource) : SymbolTable :=
  ⟨source, [], []⟩

/-- The symbols of a module, if it is in the table. -/
def get? (table : SymbolTable) (module : String) : Option (List SymbolEntry) :=
  table.modules.lookup module

/-- Whether a module is in the table. -/
def contains (table : SymbolTable) (module : String) : Bool :=
  (table.get? module).isSome

/-- Adds symbols to a module, which comes last if it is new. -/
def addSymbols (module : String) (symbols : List SymbolEntry) :
    List (String × List SymbolEntry) → List (String × List SymbolEntry)
  | [] => [(module, symbols)]
  | (known, others) :: rest =>
    if known = module then (known, others ++ symbols) :: rest
    else (known, others) :: addSymbols module symbols rest

/-- Adds a module with its symbols. Where it is introduced is what its first mention says. -/
def add (table : SymbolTable) (module : String) (span : Span) (symbols : List SymbolEntry) :
    SymbolTable :=
  { table with
    modules := addSymbols module symbols table.modules
    moduleSpans :=
      if (table.moduleSpans.lookup module).isSome then table.moduleSpans
      else table.moduleSpans ++ [(module, span)] }

/-- The place where a module is introduced: where the table says, or at its first symbol, or on
the first line. -/
def moduleSpan (table : SymbolTable) (module : String) : Span :=
  match table.moduleSpans.lookup module, (table.get? module).bind List.head? with
  | some span, _ => span
  | none, some symbol => symbol.span
  | none, none => .line 1

end SymbolTable

end LlmTxt

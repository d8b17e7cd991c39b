/-
This file builds the two symbol tables of a document: what its Index lists, and what
its module sections declare. A heading of the fourth level declares an object, and
one of the fifth level a method, if it says so and stands under a class or an
exception. A heading of the fourth level that follows no grammar still declares a
symbol, of unknown kind, and is reported.
-/

import LlmTxt.Document
import LlmTxt.Outline.Reading
import LlmTxt.Symbol.Header
import LlmTxt.Symbol.Table

namespace LlmTxt

/-! ### The Index -/

/-- The symbols that a category of a module lists. -/
def OutlineCategory.symbols (module : String) (category : OutlineCategory) : List SymbolEntry :=
  category.tokens.map fun token =>
    ⟨module, category.kind, token.name, token.signature, .line token.line⟩

/-- The symbols that a module of an outline lists. -/
def OutlineModule.symbols (module : OutlineModule) : List SymbolEntry :=
  module.categories.flatMap (·.symbols module.name)

/-- The table of the modules of an outline. -/
def SymbolTable.ofOutline (outline : Outline) : SymbolTable :=
  outline.modules.foldl (fun table module =>
    table.add module.name (.line module.line) module.symbols) (.empty .index)

/-- The table of the first Index of a document. -/
def Document.indexTable (document : Document) : SymbolTable :=
  match document.first? .index with
  | some index => .ofOutline (.ofSection index)
  | none => .empty .index

/-! ### The module sections -/

/-- A heading that declares a symbol: what it declares, unless it follows no grammar, and the name
of the symbol within its module. -/
structure Declaration where
  heading : Heading
  header : Option ObjectHeader
  name : String
deriving DecidableEq, Repr

namespace Declaration

/-- The level of the headings that declare objects. -/
def objectLevel : Nat := 4

/-- The level of the headings that declare methods. -/
def memberLevel : Nat := 5

/-- The declaration of a heading of the fourth level. -/
def ofObject (heading : Heading) : Except UnknownWord Declaration := do
  match (← ObjectHeader.ofHeading? heading.text.toList) with
  | some header => return ⟨heading, some header, header.name⟩
  | none =>
    return ⟨heading, none, String.ofList (ObjectHeader.fallbackName heading.text.toList)⟩

/-- The class or exception that a declaration begins, under which methods may be declared. -/
def owner? (declaration : Declaration) : Option String :=
  match declaration.header with
  | some header =>
    if header.kind = .class_ || header.kind = .exception then some header.name else none
  | none => none

/-- The declaration of a heading of the fifth level under a class or an exception, if it declares
a method. The name of the owner comes before that of the method. -/
def ofMember (owner : String) (heading : Heading) : Except UnknownWord (Option Declaration) := do
  match (← ObjectHeader.ofHeading? heading.text.toList) with
  | some header =>
    if header.kind = .method then
      let name := if header.name.startsWith (owner ++ ".") then header.name
        else owner ++ "." ++ header.name
      return some ⟨heading, some header, name⟩
    else return none
  | none => return none

/-- The declarations that headings make, under `owner` if there is one. -/
def ofHeadings (owner : Option String) : List Heading → Except UnknownWord (List Declaration)
  | [] => return []
  | heading :: rest => do
    if heading.level < objectLevel then ofHeadings none rest
    else if heading.level = objectLevel then
      let declaration ← ofObject heading
      return declaration :: (← ofHeadings declaration.owner? rest)
    else
      match owner with
      | some name =>
        if heading.level = memberLevel then
          match (← ofMember name heading) with
          | some declaration => return declaration :: (← ofHeadings owner rest)
          | none => ofHeadings owner rest
        else ofHeadings owner rest
      | none => ofHeadings owner rest

/-- The symbol that a declaration declares in a module. -/
def symbol (module : String) (declaration : Declaration) : SymbolEntry where
  module := module
  kind := (declaration.header.map (·.kind)).getD .unknown
  name := declaration.name
  signature := declaration.header.bind (·.signature)
  span := .line declaration.heading.line

/-- The diagnostic of a declaration that follows no grammar. -/
def diagnostic (module : String) (declaration : Declaration) : Diagnostic :=
  (Diagnostic.ofCode .warning .unrecognizedObjectHeader
    ("Heading '" ++ declaration.heading.text ++ "' in module '" ++ module ++
      "' does not match 'class Name(...)', 'Function: name(...)', 'exception Name(Base)' or " ++
      "'method Class.name(...)'; recorded as '" ++ declaration.name ++ "' of unknown kind")
    (.line declaration.heading.line) .moduleSection).about (module ++ "." ++ declaration.name)

end Declaration

/-- The module that a module section documents and the declarations in it. -/
structure ModuleContent where
  module : String
  span : Span
  declarations : List Declaration
deriving DecidableEq, Repr

namespace Document

/-- The modules that the module sections name, with their declarations, in order. -/
def moduleContents (document : Document) : Except UnknownWord (List ModuleContent) :=
  (document.moduleSections.filter fun part => part.moduleName.getD "" != "").mapM fun part => do
    let declarations ← Declaration.ofHeadings none part.headings
    return ⟨part.moduleName.getD "", part.headingSpan, declarations⟩

/-- The table of the module sections of a document. -/
def moduleTable (document : Document) : Except UnknownWord SymbolTable := do
  let contents ← document.moduleContents
  return contents.foldl (fun table content =>
    table.add content.module content.span
      (content.declarations.map (·.symbol content.module))) (.empty .moduleSections)

/-- The diagnostics of the declarations that follow no grammar. -/
def checkDeclarations (document : Document) : Except UnknownWord (List Diagnostic) := do
  let contents ← document.moduleContents
  return contents.flatMap fun content =>
    (content.declarations.filter (·.header.isNone)).map (·.diagnostic content.module)

end Document

end LlmTxt

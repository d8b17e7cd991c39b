/-
This file decides which references a document documents. The longest part of a
reference that is a module, or a package that holds one, decides: if it is the whole
reference, that is documented; behind a module there must come a symbol of that
module, and behind a package a symbol of any module.
-/

import LlmTxt.Diagnostic
import LlmTxt.Document
import LlmTxt.Example.Reference
import LlmTxt.Symbol.Table

namespace LlmTxt

open Text

/-- The modules that a document names anywhere, with the names of their symbols. A symbol of a
class is known by the name of the class too. -/
structure Documented where
  modules : List (List Char × List (List Char))
deriving Repr

namespace Documented

/-- The names by which a symbol is known: its own, and the first identifier of that. -/
def namesOf (symbol : SymbolEntry) : List (List Char) :=
  [symbol.name.toList, symbol.name.toList.takeWhile (· != '.')]

/-- Adds names to a module. -/
def addNames (module : List Char) (names : List (List Char)) :
    List (List Char × List (List Char)) → List (List Char × List (List Char))
  | [] => [(module, names)]
  | (known, others) :: rest =>
    if known = module then (known, others ++ names) :: rest
    else (known, others) :: addNames module names rest

/-- What two tables document together. -/
def ofTables (index sections : SymbolTable) : Documented :=
  ⟨(index.modules ++ sections.modules).foldl (fun known entry =>
    addNames entry.1.toList (entry.2.flatMap namesOf) known) []⟩

/-- Whether nothing is documented. -/
def isEmpty (documented : Documented) : Bool :=
  documented.modules.isEmpty

/-- The names of the symbols of a module, if it is documented. -/
def symbolsOf? (documented : Documented) (module : List Char) : Option (List (List Char)) :=
  documented.modules.lookup module

/-- The dotted names that a dotted name begins with, without itself. -/
def properStarts (path : List Char) : List (List Char) :=
  let parts := Name.segments path
  (List.range (parts.length - 1)).map fun count => Name.join (parts.take (count + 1))

/-- The packages that hold documented modules. -/
def packages (documented : Documented) : List (List Char) :=
  (documented.modules.flatMap fun entry => properStarts entry.1).eraseDups

/-- Whether a dotted name is a documented module or a package that holds one. -/
def isKnown (documented : Documented) (path : List Char) : Bool :=
  (documented.symbolsOf? path).isSome || documented.packages.contains path

/-- Whether a name is that of a symbol where a known dotted name ends. -/
def hasSymbol (documented : Documented) (path name : List Char) : Bool :=
  match documented.symbolsOf? path with
  | some names => names.contains name
  | none => documented.modules.any fun entry => entry.2.contains name

/-- Decides a reference, given the number of its identifiers that may still be the longest known
part. -/
def resolvesFrom (documented : Documented) (parts : List (List Char)) : (count : Nat) → Bool
  | 0 => false
  | count + 1 =>
    let path := Name.join (parts.take (count + 1))
    if documented.isKnown path then
      match parts.drop (count + 1) with
      | [] => true
      | name :: _ => documented.hasSymbol path name
    else resolvesFrom documented parts count

/-- Whether a reference is documented. -/
def resolves (documented : Documented) (reference : List Char) : Bool :=
  let parts := Name.segments reference
  documented.resolvesFrom parts parts.length

end Documented

namespace Reference

/-- The diagnostic of a reference that is not documented. -/
def diagnostic (reference : Reference) : Diagnostic :=
  (Diagnostic.ofCode .warning .unknownSymbolReference
    ("'" ++ reference.text ++ "' used in example code is not a documented module or symbol")
    (.line reference.line) reference.kind).about reference.text

end Reference

namespace Document

/-- The references that the example code of a document makes to its package; none if it names no
package. -/
def references (document : Document) (allowed : List String) : List Reference :=
  match document.package with
  | none => []
  | some package =>
    if package.isEmpty then []
    else (ReferenceSearch.ofPackage package document.language allowed).references document.sections

/-- The references of a document that two tables do not document. Where they document nothing at
all, nothing is looked for. -/
def unresolved (document : Document) (index sections : SymbolTable) (allowed : List String) :
    List Reference :=
  let documented := Documented.ofTables index sections
  if documented.isEmpty then []
  else
    (document.references allowed).filter fun reference =>
      !documented.resolves reference.text.toList

/-- The diagnostics of the references that are not documented. -/
def checkReferences (document : Document) (index sections : SymbolTable) (allowed : List String) :
    List Diagnostic :=
  (document.unresolved index sections allowed).map Reference.diagnostic

end Document

end LlmTxt

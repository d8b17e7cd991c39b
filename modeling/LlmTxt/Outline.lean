/-
This file holds the outline of an Index: a list of modules, each with categories of
symbols, and what is wrong with the shape of the list. A problem does not stop the
reading, so one Index can have many.
-/

import LlmTxt.Symbol.Kind

namespace LlmTxt

/-- A symbol that a category lists, as it is written between backticks. -/
structure OutlineToken where
  name : String
  signature : Option String
  line : Nat
deriving DecidableEq, Repr

/-- A category of a module: how it is labelled, the kind of its symbols, and the symbols. -/
structure OutlineCategory where
  label : String
  kind : SymbolKind
  line : Nat
  tokens : List OutlineToken
deriving DecidableEq, Repr

/-- A module that an Index lists. It is formatted if it is written bold or as code. -/
structure OutlineModule where
  name : String
  line : Nat
  formatted : Bool
  categories : List OutlineCategory
deriving DecidableEq, Repr

/-- What can be wrong with the shape of an Index. -/
inductive OutlineFault where
  | codeBlock
  | badSymbolName (raw : String)
  | uncodedText (text : String)
  | moduleWithoutCategories (name : String)
  | noModule
  | unexpectedText (text : String)
  | moduleWithoutName (content : String)
  | plainModuleName (name : String)
  | categoryWithoutModule
  | tooDeep
  | malformedCategory (content : String)
  | unknownCategory (label : String)
deriving DecidableEq, Repr

/-- The wording of a fault. -/
def OutlineFault.message : OutlineFault → String
  | codeBlock => "Fenced code is not allowed inside the Index list"
  | badSymbolName raw => "'" ++ raw ++ "' is not a valid symbol name"
  | uncodedText text =>
    "Symbols must be code-formatted (\x60Name\x60); found uncoded text '" ++ text ++ "'"
  | moduleWithoutCategories name =>
    "Module '" ++ name ++ "' has no Classes/Functions/Exceptions sub-bullets"
  | noModule => "Index does not list any module"
  | unexpectedText text => "Unexpected text in Index list: '" ++ text ++ "'"
  | moduleWithoutName content => "Module bullet has no module name: '" ++ content ++ "'"
  | plainModuleName name =>
    "Module name '" ++ name ++ "' must be bold (**" ++ name ++ "**) or code-formatted (\x60" ++
      name ++ "\x60)"
  | categoryWithoutModule => "Category bullet is not nested under a module bullet"
  | tooDeep => "Index list is nested deeper than two levels"
  | malformedCategory content =>
    "Category bullet must look like 'Classes: \x60Name\x60, ...', got '" ++ content ++ "'"
  | unknownCategory label =>
    "Unknown Index category '" ++ label ++
      "' (expected Classes, Functions, Exceptions or Methods)"

/-- A fault and the line on which it is found. -/
structure OutlineProblem where
  line : Nat
  fault : OutlineFault
deriving DecidableEq, Repr

/-- The outline of an Index. -/
structure Outline where
  modules : List OutlineModule
  problems : List OutlineProblem
deriving DecidableEq, Repr

end LlmTxt

/-
This file holds the kinds of object that a document declares. A heading that does
not say what it declares declares an object of unknown kind.
-/

namespace LlmTxt

/-- The kinds of object that a document declares. -/
inductive SymbolKind where
  | class_
  | function
  | method
  | exception
  | unknown
deriving DecidableEq, Repr, Inhabited

namespace SymbolKind

/-- The name by which reports and messages cite a kind. -/
def name : SymbolKind → String
  | class_ => "class"
  | function => "function"
  | method => "method"
  | exception => "exception"
  | unknown => "unknown"

/-- The kind that a name cites. -/
def ofName? : String → Option SymbolKind
  | "class" => some class_
  | "function" => some function
  | "method" => some method
  | "exception" => some exception
  | "unknown" => some unknown
  | _ => none

end SymbolKind

end LlmTxt

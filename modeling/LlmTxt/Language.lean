/-
This file holds what the checker knows of programming languages: the names and tags
by which one language is called, and how comments are written in it. A name that is
not known stands for itself in small letters, so that equal names stay equal.
-/

import LlmTxt.Text.Blank
import LlmTxt.Text.Case

namespace LlmTxt.Language

open Text

/-- The names and tags of the languages that are known, each with the canonical name. -/
def tags : List (String × String) := [
  ("python", "python"), ("py", "python"), ("python3", "python"), ("py3", "python"),
  ("pycon", "python"), ("ipython", "python"),
  ("typescript", "typescript"), ("ts", "typescript"), ("tsx", "typescript"),
  ("javascript", "javascript"), ("js", "javascript"), ("jsx", "javascript"),
  ("node", "javascript"),
  ("go", "go"), ("golang", "go"),
  ("rust", "rust"), ("rs", "rust"),
  ("java", "java"), ("kotlin", "kotlin"), ("kt", "kotlin"),
  ("csharp", "csharp"), ("cs", "csharp"), ("c#", "csharp"),
  ("c", "c"), ("cpp", "cpp"), ("c++", "cpp"),
  ("ruby", "ruby"), ("rb", "ruby"),
  ("bash", "bash"), ("sh", "bash"), ("shell", "bash"), ("console", "bash")]

/-- The canonical name of a language, if the tag names one at all. -/
def canonical (tag : Option String) : Option String :=
  match tag with
  | none => none
  | some name =>
    let small := String.ofList (lower (trim name.toList))
    if small.isEmpty then none else some ((tags.lookup small).getD small)

/-- How comments are written: what begins one that ends with its line, and what begins and ends
one that may hold lines. -/
structure CommentMarks where
  line : List Char
  block : Option (List Char × List Char)
deriving DecidableEq, Repr

/-- Comments from a number sign to the end of the line. -/
def numberSign : CommentMarks :=
  ⟨['#'], none⟩

/-- Comments from two slashes to the end of the line, or between slashes with stars. -/
def slashes : CommentMarks :=
  ⟨['/', '/'], some (['/', '*'], ['*', '/'])⟩

/-- The languages whose comments are written with slashes. -/
def slashed : List String :=
  ["typescript", "javascript", "go", "rust", "java", "kotlin", "csharp", "c", "cpp"]

/-- How comments are written in a language; with a number sign in one that is not known. -/
def commentMarks (language : Option String) : CommentMarks :=
  match canonical language with
  | none => numberSign
  | some name => if slashed.contains name then slashes else numberSign

end LlmTxt.Language

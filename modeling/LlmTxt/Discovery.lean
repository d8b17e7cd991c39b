/-
This file finds documents in a file system. A document that is named on its own is taken
whatever it is called. In a directory the documents are the files that bear one of some
names, in letters of either case, at every depth; directories whose names begin with a
dot or are excluded are not entered, but the directory that was asked for always is.
-/

import LlmTxt.FileTree
import LlmTxt.Text.Case

namespace LlmTxt

open Text

namespace FileTree

mutual

/-- The paths of the files in a tree, each as the names that lead to it. Only directories whose
names `enters` holds of are entered. -/
def files (enters : String → Bool) : FileTree → List (List String)
  | file _ => [[]]
  | directory entries => filesOfEntries enters entries

/-- The paths of the files among entries and below them. -/
def filesOfEntries (enters : String → Bool) : List (String × FileTree) → List (List String)
  | [] => []
  | (name, entry) :: rest =>
    (if entry.isDirectory && !enters name then []
      else (entry.files enters).map (name :: ·)) ++ filesOfEntries enters rest

end

end FileTree

/-- What is looked for in directories: the names of documents, in small letters, and the names of
the directories that are not entered. -/
structure DocumentSearch where
  names : List String
  excluded : List String
deriving DecidableEq, Repr

/-- Why documents cannot be found. -/
inductive DiscoveryFailure where
  | noPath (path : String)
  | noBase (path : String)
  | noDirectory (path : String)
  | tooLong (path : String)
  /-- The path of a directory holds a character that no path may hold. -/
  | nullCharacter
deriving DecidableEq, Repr

/-- The wording of a failure. -/
def DiscoveryFailure.message : DiscoveryFailure → String
  | noPath path => "Path does not exist: " ++ path
  | noBase path => "Base path does not exist: " ++ path
  | noDirectory path => "Base path is not a directory: " ++ path
  | tooLong path => tooLongMessage path
  | nullCharacter => "embedded null byte"

namespace DocumentSearch

/-- The names of documents. -/
def documentNames : List String :=
  ["llm.txt", "llms.txt"]

/-- The directories that hold no documents of their own. -/
def excludedNames : List String := [
  "node_modules", ".git", "__pycache__", ".pytest_cache", ".venv", "venv", "env", "build", "dist",
  ".cache", ".tox", "site", "_build"]

/-- The name of a file in small letters. -/
def lowerName (name : String) : String :=
  String.ofList (lower name.toList)

/-- A search for some names; where none are given, those that are usual. -/
def ofNames (names excluded : List String) : DocumentSearch where
  names := (if names.isEmpty then documentNames else names).map lowerName
  excluded := if excluded.isEmpty then excludedNames else excluded

/-- Whether a directory of some name is entered. -/
def enters (search : DocumentSearch) (name : String) : Bool :=
  name.toList.head? != some '.' && !search.excluded.contains name

/-- Whether a path leads to a document. -/
def accepts (search : DocumentSearch) (path : List String) : Bool :=
  match path.getLast? with
  | some name => search.names.contains (lowerName name)
  | none => false

/-- The paths of the documents in a tree, sorted by the names that lead to them. Two things are left
out: a directory that is closed to the caller, which would be passed over, and a path that becomes too
long below the directory that is asked for, which would end the search. -/
def documents (search : DocumentSearch) (tree : FileTree) : List (List String) :=
  ((tree.files search.enters).filter search.accepts).mergeSort Path.sortsBefore

/-- The documents below a directory, as paths from the root. Two dots in the path of the directory
take the name before them back, whatever the file system holds. -/
def scan (search : DocumentSearch) (workspace : Workspace) (base : Path) :
    Except DiscoveryFailure (List (List String)) :=
  let parts := base.resolve workspace.current
  if base.holdsNull then .error .nullCharacter
  else
    match workspace.find ⟨.root, parts⟩ with
    | .error .missing => .error (.noBase (Path.absoluteText parts))
    | .error .tooLong => .error (.tooLong (Path.absoluteText parts))
    | .ok (.file _) => .error (.noDirectory (Path.absoluteText parts))
    | .ok tree => .ok ((search.documents tree).map (parts ++ ·))

/-- The documents that one path leads to. -/
def ofPath (search : DocumentSearch) (workspace : Workspace) (path : Path) :
    Except DiscoveryFailure (List (List String)) :=
  match workspace.find path with
  | .error .missing => .error (.noPath path.text)
  | .error .tooLong => .error (.tooLong path.text)
  | .ok (.file _) => .ok [path.resolve workspace.current]
  | .ok (.directory _) => search.scan workspace path

/-- The documents that some paths lead to, each where it is first found. -/
def discover (search : DocumentSearch) (workspace : Workspace) (paths : List Path) :
    Except DiscoveryFailure (List (List String)) :=
  (paths.mapM (search.ofPath workspace)).map fun found => found.flatten.eraseDups

end DocumentSearch

end LlmTxt

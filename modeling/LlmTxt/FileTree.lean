/-
This file holds a tree of directories and files. A directory has its entries in no
order that counts, each under a name of its own. Names and paths can be too long to be
looked up at all.

A tree has no links and no rights. Every directory in it can be read, and names are
characters, so a directory that is closed to the caller and a name whose bytes spell no
text have no place in it.
-/

import LlmTxt.Path
import LlmTxt.Text.Quoted

namespace LlmTxt

open Text

/-- Why a path leads to nothing. -/
inductive PathFault where
  | missing
  | tooLong
deriving DecidableEq, Repr

/-- How many bytes a name can have. -/
def maxNameSize : Nat := 255

/-- How many bytes the text of a path can have. -/
def maxPathSize : Nat := 4095

/-- The wording where a path is too long to be looked up. -/
def tooLongMessage (path : String) : String :=
  "[Errno 36] File name too long: " ++ quotedString path

/-- A file with its bytes, or a directory with its entries. -/
inductive FileTree where
  | file (content : List UInt8)
  | directory (entries : List (String × FileTree))
deriving Repr

namespace FileTree

/-- The directory without entries. -/
def empty : FileTree := directory []

/-- Whether this is a directory. -/
def isDirectory : FileTree → Bool
  | file _ => false
  | directory _ => true

/-- The entries of a directory. -/
def entries : FileTree → List (String × FileTree)
  | file _ => []
  | directory entries => entries

/-- The entry of a directory under a name. -/
def child? (tree : FileTree) (name : String) : Option FileTree :=
  tree.entries.lookup name

/-- What names lead to, without two dots among them. -/
def at? (tree : FileTree) : List String → Option FileTree
  | [] => some tree
  | name :: rest => (tree.child? name).bind fun entry => entry.at? rest

/-- What names lead to, where two dots lead to the directory around. `around` holds the
directories around, the nearest first; the root is around itself. -/
def walk (around : List FileTree) (tree : FileTree) : List String → Except PathFault FileTree
  | [] => .ok tree
  | name :: rest =>
    if !tree.isDirectory then .error .missing
    else if name == Path.up then
      match around with
      | [] => walk [] tree rest
      | outer :: more => walk more outer rest
    else if maxNameSize < name.utf8ByteSize then .error .tooLong
    else
      match tree.child? name with
      | none => .error .missing
      | some entry => walk (tree :: around) entry rest

/-- Replaces the entry under a name, or adds one. -/
def putEntry (name : String) (entry : FileTree) :
    List (String × FileTree) → List (String × FileTree)
  | [] => [(name, entry)]
  | (known, other) :: rest =>
    if known = name then (known, entry) :: rest else (known, other) :: putEntry name entry rest

/-- Puts a tree where names lead to; directories on the way are made. -/
def put (tree placed : FileTree) : List String → FileTree
  | [] => placed
  | name :: rest =>
    directory (putEntry name (((tree.child? name).getD empty).put placed rest) tree.entries)

/-- Makes a directory where names lead to, unless something is there. -/
def makeDirectory (tree : FileTree) (parts : List String) : FileTree :=
  if (tree.at? parts).isSome then tree else tree.put empty parts

end FileTree

/-- A file system, and the directory from which relative paths lead. -/
structure Workspace where
  root : FileTree
  current : List String
deriving Repr

namespace Workspace

/-- The names of a path from the root, with two dots where it has them. -/
def fromRoot (workspace : Workspace) (path : Path) : List String :=
  (if path.isAbsolute then [] else workspace.current) ++ path.parts

/-- What a path leads to. A path with a null character leads nowhere. -/
def find (workspace : Workspace) (path : Path) : Except PathFault FileTree :=
  if path.holdsNull then .error .missing
  else if maxPathSize < path.text.utf8ByteSize then .error .tooLong
  else FileTree.walk [] workspace.root (workspace.fromRoot path)

/-- The bytes of the file that a path leads to. -/
def read? (workspace : Workspace) (path : Path) : Option (List UInt8) :=
  match workspace.find path with
  | .ok (.file content) => some content
  | _ => none

end Workspace

end LlmTxt

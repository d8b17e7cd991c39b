/-
This file is the program. It reads the files that a run may look at, and the variables that
count, and hands them to the command line. What directories hold is named on standard
input, one path to a line, so that any tool that lists files can choose what is scanned.
-/

import LlmTxt.CommandLine

open LlmTxt Terminal

namespace LlmTxt.Program

/-- Adds what a path from the root leads to: the bytes of a file, or an empty directory. -/
def probe (tree : FileTree) (parts : List String) : IO FileTree := do
  if (tree.at? parts.dropLast).any (!·.isDirectory) then return tree
  try
    let bytes ← IO.FS.readBinFile (Path.absoluteText parts)
    return tree.put (.file bytes.toList) parts
  catch
    | .inappropriateType .. => return tree.makeDirectory parts
    | _ => return tree

/-- Adds what a path leads to, and the directories on the way. -/
def probePath (current : List String) (tree : FileTree) (path : Path) : IO FileTree :=
  ((List.range (path.parts.length + 1)).map fun count =>
    ({ path with parts := path.parts.take count } : Path).resolve current).foldlM probe tree

/-- The lines of standard input up to its end. -/
partial def inputLines (input : IO.FS.Stream) : IO (List String) := do
  let line ← input.getLine
  if line.isEmpty then return []
  return line.trimAsciiEnd.toString :: (← inputLines input)

/-- The files that a check may look at. -/
def workspaceFor (request : CheckRequest) (current : List String) : IO Workspace := do
  let start := FileTree.empty.makeDirectory current
  let variableFiles := (List.range (current.length + 1)).map fun count =>
    (⟨.root, current.take count ++ [Settings.variableFile]⟩ : Path)
  let settingsFiles := Settings.fileNames.map Path.ofText
  let tree ← (variableFiles ++ settingsFiles ++ request.settings.toList ++ request.paths).foldlM
    (probePath current) start
  let isDirectory := fun path =>
    ((⟨tree, current⟩ : Workspace).find path).toOption.any (·.isDirectory)
  if request.paths.any isDirectory then
    let listed ← inputLines (← IO.getStdin)
    return ⟨← (listed.map Path.ofText).foldlM (probePath current) tree, current⟩
  else return ⟨tree, current⟩

/-- The variables of the environment that count in a file system. -/
def environmentFor (workspace : Workspace) : IO Environment := do
  let texts := (List.range (workspace.current.length + 1)).filterMap fun count =>
    workspace.read? ⟨.root, workspace.current.take count ++ [Settings.variableFile]⟩
  let cited := texts.flatMap fun bytes =>
    ((Text.fileText bytes).toOption.map Environment.citedNames).getD []
  let names := Settings.languagesVariable :: Settings.allowedVariable ::
    Settings.strictVariable :: Settings.noFileVariable :: cited
  names.filterMapM fun name => do return (← IO.getEnv name).map fun value => (name, value)

/-- The console that the program prints on. It is eighty places wide where no variable says how wide
it is. -/
def console : IO Console := do
  let written := (← IO.getEnv "COLUMNS").getD ""
  let width? := if written.all Char.isDigit then written.toNat? else none
  return { Console.wide with width := width?.getD 80 }

/-- Runs the program in the current directory. -/
def run (arguments : List String) : IO (Except Breakdown Outcome) := do
  let current := (Path.ofText (toString (← IO.currentDir))).parts
  let console ← console
  match Command.ofArguments arguments with
  | .error refusal =>
    IO.eprintln refusal.message
    return runCommandLineOn console arguments ⟨.empty, current⟩ []
  | .ok (.check request) =>
    let workspace ← workspaceFor request current
    return runCommandLineOn console arguments workspace (← environmentFor workspace)
  | .ok _ => return runCommandLineOn console arguments ⟨.empty, current⟩ []

end LlmTxt.Program

/-- Runs the command line, prints what it shows, and ends with its status. -/
def main (arguments : List String) : IO UInt32 := do
  match ← Program.run arguments with
  | .ok outcome =>
    IO.print outcome.output
    return outcome.status.toUInt32
  | .error cause =>
    IO.eprintln cause.message
    return Outcome.failed.toUInt32

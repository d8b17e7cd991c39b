/-
This file holds the frontmatter of a document: the block between two lines of
dashes at its very beginning, which is read as a YAML mapping. Four keys are
recognised and have to hold texts. All other keys are kept as they are. Where the
block is not a YAML text, its keys are recovered line by line from the lines that
begin with a key and a colon.
-/

import LlmTxt.Name
import LlmTxt.Source
import LlmTxt.Span
import LlmTxt.Yaml.Value

namespace LlmTxt

open Text

/-- Why a frontmatter block is not a mapping. -/
inductive FrontmatterFault where
  | notYaml (rejection : Yaml.Rejection)
  | notMapping (value : Yaml.Value)
deriving Repr

/-- The wording of a fault. -/
def FrontmatterFault.message : FrontmatterFault → String
  | notYaml rejection => "Frontmatter is not valid YAML: " ++ rejection.problemText
  | notMapping value =>
    "Frontmatter must be a mapping of keys to values, got " ++ value.typeName

/-- The frontmatter of a document. -/
structure Frontmatter where
  /-- The recognised keys that hold a text, with the text. -/
  entries : List (String × String)
  /-- All other keys with their values. -/
  extra : List (String × Yaml.Value)
  /-- The recognised keys that hold no text, with what they hold instead. -/
  invalid : List (String × String)
  /-- The first line on which each key stands at the beginning. -/
  keyLines : List (String × Nat)
  /-- The lines of the block with the lines of dashes. -/
  span : Span
  /-- Why the block is not a mapping. -/
  fault : Option FrontmatterFault
  /-- The line at which YAML is at fault. -/
  faultLine : Option Nat
deriving Repr

namespace Frontmatter

/-- The keys that every frontmatter has to hold. -/
def recognizedKeys : List String :=
  ["package", "version", "language", "summary"]

/-- Whether a line opens or closes a frontmatter block: three dashes and nothing else. -/
def isDelimiter (line : List Char) : Bool :=
  match after? ['-', '-', '-'] line with
  | some rest => isAllBlank rest
  | none => false

/-- The key at the beginning of a line and what follows its colon, if the line begins with a key
and a colon. -/
def keyLine? : List Char → Option (List Char × List Char)
  | [] => none
  | first :: rest =>
    if isNameStart first then
      let isKeyCharacter := fun character => isWord character || character == '-'
      let key := first :: rest.takeWhile isKeyCharacter
      match (rest.dropWhile isKeyCharacter).dropWhile isBlank with
      | ':' :: value => some (key, value)
      | _ => none
    else none

/-- Adds a key with its value unless the key is there. -/
def insertNew {Value : Type} (key : String) (value : Value) (pairs : List (String × Value)) :
    List (String × Value) :=
  if (pairs.lookup key).isSome then pairs else pairs ++ [(key, value)]

/-- The keys that can be read line by line, each with the trimmed rest of its first line. -/
def recover (lines : List (List Char)) : List (String × String) :=
  lines.foldl (fun known line =>
    match keyLine? line with
    | some (key, value) => insertNew (String.ofList key) (String.ofList (trim value)) known
    | none => known) []

/-- The first line of each key that begins a line. -/
def linesOfKeys (lines : List Line) : List (String × Nat) :=
  lines.foldl (fun known line =>
    match keyLine? line.characters with
    | some (key, _) => insertNew (String.ofList key) line.number known
    | none => known) []

/-- The recognised keys that hold a text, with the text trimmed. -/
def entriesOf (pairs : List (String × Yaml.Value)) : List (String × String) :=
  pairs.filterMap fun pair =>
    match pair.2 with
    | .text content =>
      if recognizedKeys.contains pair.1 then
        some (pair.1, String.ofList (trim content.toList))
      else none
    | _ => none

/-- The recognised keys that hold something else than a text, with what that is. -/
def invalidOf (pairs : List (String × Yaml.Value)) : List (String × String) :=
  pairs.filterMap fun pair =>
    match pair.2 with
    | .text _ => none
    | other => if recognizedKeys.contains pair.1 then some (pair.1, other.typeName) else none

/-- The keys that are not recognised. -/
def extraOf (pairs : List (String × Yaml.Value)) : List (String × Yaml.Value) :=
  pairs.filter fun pair => !recognizedKeys.contains pair.1

/-- What the lines of a block hold: the pairs, why they are not those of a mapping, and the line
that is at fault, counted from zero. -/
structure Content where
  pairs : List (String × Yaml.Value)
  fault : Option FrontmatterFault
  line : Option Nat

/-- What reading a block as YAML says about it. Nothing at all counts as an empty mapping. -/
def contentOf (lines : List (List Char)) :
    Except Yaml.Failure (Option Yaml.Value) → Except Yaml.Failure Content
  | .ok none => .ok ⟨[], none, none⟩
  | .ok (some (.mapping pairs)) => .ok ⟨pairs, none, none⟩
  | .ok (some other) => .ok ⟨[], some (.notMapping other), none⟩
  | .error (.rejected rejection) =>
    let pairs := (recover lines).map fun pair => (pair.1, Yaml.Value.text pair.2)
    .ok ⟨pairs, some (.notYaml rejection), rejection.line⟩
  | .error failure => .error failure

/-- The frontmatter between the first line of a document and the line `closing`. A fault behind
the last line of the block is put on that line. -/
def ofLines (body : List Line) (closing : Nat) : Except Yaml.Failure Frontmatter := do
  let lines := body.map (·.characters)
  let content ← contentOf lines (Yaml.Value.ofText? (['\n'].intercalate lines))
  return {
    entries := entriesOf content.pairs
    extra := extraOf content.pairs
    invalid := invalidOf content.pairs
    keyLines := linesOfKeys body
    span := ⟨1, closing, some 0⟩
    fault := content.fault
    faultLine := content.line.map fun line => min (line + 2) (max (closing - 1) 1) }

/-- The text of a recognised key. -/
def get? (frontmatter : Frontmatter) (key : String) : Option String :=
  frontmatter.entries.lookup key

/-- The span of a key: its line, or the whole block where that is not known. -/
def spanOf (frontmatter : Frontmatter) (key : String) : Span :=
  match frontmatter.keyLines.lookup key with
  | some line => .line line
  | none => frontmatter.span

end Frontmatter

end LlmTxt

/-
This file holds the values of a YAML document whose scalars are all texts: texts,
lists, and mappings with text keys. A mapping keeps the order in which its keys
first appear, and a key that appears again takes the later value. A mapping has no
list or mapping as a key, and no value holds itself.
-/

import LlmTxt.Yaml.Node

namespace LlmTxt

/-- Gives a key a value. A new key comes last, and a known one keeps its place. -/
def insertKey {Key Value : Type} [BEq Key] (key : Key) (value : Value) :
    List (Key × Value) → List (Key × Value)
  | [] => [(key, value)]
  | (known, old) :: rest =>
    if known == key then (known, value) :: rest else (known, old) :: insertKey key value rest

namespace Yaml

/-- A value whose scalars are texts. -/
inductive Value where
  | text (content : String)
  | list (items : List Value)
  | mapping (pairs : List (String × Value))
deriving Repr

/-- The name by which messages call the type of a value. -/
def Value.typeName : Value → String
  | text _ => "str"
  | list _ => "list"
  | mapping _ => "dict"

/-- The values of the anchored nodes that have been built, and the anchored nodes that are being
built with the lines on which they begin. -/
structure Anchored where
  built : List (String × Value)
  open_ : List (String × Nat)

/-- Building of values, which may fail. -/
abbrev Build := StateT Anchored (Except Failure)

namespace Build

/-- Notes that the node of an anchor is being built. -/
def enter (head : NodeHead) : Build Unit :=
  match head.anchor with
  | none => pure ()
  | some name => modify fun state => { state with open_ := (name, head.line) :: state.open_ }

/-- Notes the value of an anchored node. -/
def leave (head : NodeHead) (value : Value) : Build Value := do
  match head.anchor with
  | none => return value
  | some name =>
    modify fun state => { state with built := (name, value) :: state.built }
    return value

/-- The value that an alias stands for. A node that is still being built has none. -/
def resolve (name : String) (line : Nat) : Build Value := do
  let state ← get
  match state.built.lookup name, state.open_.lookup name with
  | some value, _ => return value
  | none, some target => throw (.marked none .recursiveNode target)
  | none, none => throw (.marked none (.undefinedAlias name) line)

mutual

/-- The value of a node. -/
def value : Node → Build Value
  | .scalar head text => leave head (.text text)
  | .sequence head items => do
    enter head
    leave head (.list (← list items))
  | .mapping head pairs => do
    enter head
    leave head (.mapping (← mapping [] pairs))
  | .aliasOf name line => resolve name line

/-- The values of some nodes. -/
def list : List Node → Build (List Value)
  | [] => return []
  | item :: rest => do
    let first ← value item
    return first :: (← list rest)

/-- The pairs of a mapping, added to those before them. -/
def mapping (known : List (String × Value)) : List (Node × Node) → Build (List (String × Value))
  | [] => return known
  | (key, content) :: rest => do
    match (← value key) with
    | .text name => mapping (insertKey name (← value content) known) rest
    | _ => throw (.marked (some (.constructing "a mapping")) .unhashableKey key.line)

end

end Build

/-- The value of the only document in a text, if there is a document. -/
def Value.ofText? (characters : List Char) : Except Failure (Option Value) := do
  match (← Node.ofText? characters) with
  | none => return none
  | some root => return some (← (Build.value root).run' ⟨[], []⟩)

end Yaml

end LlmTxt

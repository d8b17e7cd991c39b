/-
This file reads the data of a YAML document off its graph. A node stands for a scalar, or
for a collection that is read later: collections wait for their turn, and what is found in
one waits behind those that were found before. A node stands for the same datum wherever
it is cited, even if merging has rewritten it since it was first met. The first fault in
this order is the one reported.
-/

import LlmTxt.Yaml.Graph
import LlmTxt.Yaml.Magnitude

namespace LlmTxt.Yaml

/-! ### Data -/

/-- What a node stands for: a scalar, or the collection of its number. -/
inductive Datum where
  | scalar (value : Scalar)
  | collection (number : Nat)
deriving Repr

/-- A collection. -/
inductive Collection where
  | list (items : List Datum)
  /-- A list of pairs. -/
  | pairs (content : List (Datum × Datum))
  | table (content : List (Scalar × Datum))
  | set (keys : List Scalar)
deriving Repr

/-- The data of a document: what the root stands for, and the collections under their numbers. -/
structure Data where
  root : Datum
  collections : List (Nat × Collection)
deriving Repr

namespace Scalar

/-- A scalar that is a number, with its size; truth values count as zero and one. -/
def magnitude? : Scalar → Option Magnitude
  | boolean value => some (.ofInt (if value then 1 else 0))
  | integer value => some (.ofInt value)
  | float value => some (.ofFloat value)
  | _ => none

/-- Whether two scalars are the same key of a mapping. -/
def sameKey (first second : Scalar) : Bool :=
  match first.magnitude?, second.magnitude? with
  | some one, some other => one.isEqual other
  | _, _ => first == second

/-- Gives a key a datum. A new key comes last, and a known one keeps its place. -/
def insertPair (key : Scalar) (datum : Datum) : List (Scalar × Datum) → List (Scalar × Datum)
  | [] => [(key, datum)]
  | (known, other) :: rest =>
    if known.sameKey key then (known, datum) :: rest
    else (known, other) :: insertPair key datum rest

end Scalar

/-! ### Scalars in a graph -/

namespace Graph

/-- The text of a scalar. A mapping stands for the text under the key that marks its plain value,
if it has that key. -/
def textAt (graph : Graph) (number : Nat) : (fuel : Nat) → Except DataFailure String
  | 0 => .error (fault none (.expectedNode "a scalar node" "mapping") 0)
  | fuel + 1 =>
    let vertex := graph.vertex number
    let refused := fault none (.expectedNode "a scalar node" vertex.content.formName) vertex.line
    match vertex.content with
    | .scalar text => .ok text
    | .sequence _ => .error refused
    | .mapping pairs =>
      match pairs.find? fun pair => (graph.vertex pair.1).tag == .value with
      | some (_, content) => graph.textAt content fuel
      | none => .error refused

/-- What a node stands for that is no collection. -/
def scalarAt (graph : Graph) (number : Nat) : Except DataFailure Scalar := do
  let vertex := graph.vertex number
  match vertex.tag with
  | .merge | .value | .unknown _ =>
    throw (fault none (.undefinedTag vertex.tag.name) vertex.line)
  | tag =>
    let text ← graph.textAt number (graph.size + 1)
    match tag, vertex.content with
    | .timestamp, .mapping _ => throw (.scalar .notText)
    | _, _ => Scalar.ofText tag text.toList vertex.line

end Graph

/-! ### Reading -/

/-- The state of reading data: the graph, what its nodes have been found to stand for, the collections
that wait for their turn, and those that have been read. -/
structure Reading where
  graph : Graph
  met : List (Nat × Datum)
  waiting : List Nat
  collections : List (Nat × Collection)

/-- Reading of data, which may fail. -/
abbrev Read := StateT Reading (Except DataFailure)

namespace Read

/-- What a node stands for. A collection that is met for the first time waits for its turn. -/
def datum (number : Nat) : Read Datum := do
  let state ← get
  match state.met.lookup number with
  | some known => return known
  | none =>
    if (state.graph.vertex number).tag.isCollection then
      let found := Datum.collection number
      StateT.set { state with
        met := (number, found) :: state.met
        waiting := state.waiting ++ [number] }
      return found
    else
      let found := Datum.scalar (← (state.graph.scalarAt number : Except DataFailure Scalar))
      StateT.set { state with met := (number, found) :: state.met }
      return found

/-- The pairs of a mapping, added to those before them. No key is a collection. -/
def table (line : Nat) (known : List (Scalar × Datum)) :
    List (Nat × Nat) → Read (List (Scalar × Datum))
  | [] => return known
  | (key, content) :: rest => do
    match (← datum key) with
    | .scalar name => table line (name.insertPair (← datum content) known) rest
    | .collection _ => throw (Graph.fault Graph.inMapping .unhashableKey line)

/-- The pairs of a list of mappings of one pair each. -/
def singles (context : Context) : List Nat → Read (List (Datum × Datum))
  | [] => return []
  | item :: rest => do
    let vertex := (← get).graph.vertex item
    match vertex.content with
    | .mapping [(key, content)] =>
      let name ← datum key
      let value ← datum content
      return (name, value) :: (← singles context rest)
    | .mapping pairs =>
      throw (Graph.fault (some context) (.expectedSingleItem pairs.length) vertex.line)
    | other =>
      throw (Graph.fault (some context) (.expectedNode "a mapping of length 1" other.formName)
        vertex.line)

/-- The pairs of the mapping of a number, after merging. -/
def mapping (number line : Nat) : Read (List (Scalar × Datum)) := do
  let merged ← ((← get).graph.merge number : Except DataFailure Graph)
  modify fun state => { state with graph := merged }
  table line [] (merged.pairsAt number)

/-- The collection of a number. -/
def collection (number : Nat) : Read Collection := do
  let vertex := (← get).graph.vertex number
  let refused := fun (context : Option Context) (what : String) =>
    Graph.fault context (.expectedNode what vertex.content.formName) vertex.line
  let inOrder := Context.constructing "an ordered map"
  let inPairs := Context.constructing "pairs"
  match vertex.tag, vertex.content with
  | .sequence, .sequence items => return .list (← items.mapM datum)
  | .sequence, _ => throw (refused none "a sequence node")
  | .orderedMapping, .sequence items => return .pairs (← singles inOrder items)
  | .orderedMapping, _ => throw (refused (some inOrder) "a sequence")
  | .pairs, .sequence items => return .pairs (← singles inPairs items)
  | .pairs, _ => throw (refused (some inPairs) "a sequence")
  | .set, .mapping _ => return .set ((← mapping number vertex.line).map (·.1))
  | _, .mapping _ => return .table (← mapping number vertex.line)
  | _, _ => throw (refused none "a mapping node")

/-- Reads the collections that wait, in turn. Each node waits once at most. -/
def collections : (fuel : Nat) → Read Unit
  | 0 => return ()
  | fuel + 1 => do
    match (← get).waiting with
    | [] => return ()
    | number :: rest =>
      modify fun state => { state with waiting := rest }
      let found ← collection number
      modify fun state => { state with collections := (number, found) :: state.collections }
      collections fuel

/-- The data of a document whose root is the first node of its graph. -/
def document (size : Nat) : Read Data := do
  let root ← datum 0
  collections (size + 1)
  return ⟨root, (← get).collections⟩

end Read

namespace Data

/-- The data of a graph. -/
def ofGraph (graph : Graph) : Except DataFailure Data :=
  (Read.document graph.size).run' ⟨graph, [], [], []⟩

/-- The data of the only document in a text, if there is a document. -/
def ofText? (characters : List Char) : Except DataFailure (Option Data) := do
  match (← (Node.ofText? characters).mapError .text) with
  | none => return none
  | some root => return some (← ofGraph (.ofRoot root))

end Data

end LlmTxt.Yaml

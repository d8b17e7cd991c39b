/-
This file holds a YAML document as a graph. The document is no tree, because an alias may
cite a node around it; so its nodes have numbers, and a collection holds the numbers of the
nodes in it. A mapping may have others merged into it, and its pairs are rewritten then, in
the graph and for all that cite it.
-/

import LlmTxt.Yaml.Node
import LlmTxt.Yaml.Scalar

namespace LlmTxt.Yaml

/-! ### Nodes with numbers -/

/-- What a node holds. -/
inductive Content where
  | scalar (text : String)
  | sequence (items : List Nat)
  | mapping (pairs : List (Nat × Nat))
deriving DecidableEq, Repr

/-- The word by which messages call a form of nodes. -/
def Content.formName : Content → String
  | scalar _ => "scalar"
  | sequence _ => "sequence"
  | mapping _ => "mapping"

/-- A node of a graph. -/
structure Vertex where
  tag : DataTag
  line : Nat
  content : Content
deriving DecidableEq, Repr

namespace Vertex

/-- The tag of a collection, which is `usual` unless one is written out. -/
def collectionTag (head : NodeHead) (usual : DataTag) : DataTag :=
  match head.tag with
  | .explicit name => .ofName name
  | _ => usual

/-- A scalar as a node of a graph. -/
def ofScalar (head : NodeHead) (text : String) : Vertex :=
  let tag := match head.tag with
    | .plain => PlainForm.tag text.toList
    | .quoted => .text
    | .explicit name => .ofName name
  ⟨tag, head.line, .scalar text⟩

/-- A sequence without its items. -/
def ofSequence (head : NodeHead) : Vertex :=
  ⟨collectionTag head .sequence, head.line, .sequence []⟩

/-- A mapping without its pairs. -/
def ofMapping (head : NodeHead) : Vertex :=
  ⟨collectionTag head .mapping, head.line, .mapping []⟩

end Vertex

/-- The nodes of a document under their numbers. The root comes first. -/
structure Graph where
  vertices : Array Vertex
deriving Repr

namespace Graph

/-- The node of a number. -/
def vertex (graph : Graph) (number : Nat) : Vertex :=
  graph.vertices.getD number ⟨.null, 0, .scalar ""⟩

/-- How many nodes a graph has. -/
def size (graph : Graph) : Nat :=
  graph.vertices.size

/-- A graph with one more node. -/
def push (graph : Graph) (vertex : Vertex) : Graph :=
  ⟨graph.vertices.push vertex⟩

/-- A graph in which a node is another. -/
def set (graph : Graph) (number : Nat) (vertex : Vertex) : Graph :=
  ⟨graph.vertices.setIfInBounds number vertex⟩

/-- A graph in which a node holds something else. -/
def fill (graph : Graph) (number : Nat) (content : Content) : Graph :=
  graph.set number { graph.vertex number with content }

/-- The pairs of a mapping. Any other node has none. -/
def pairsAt (graph : Graph) (number : Nat) : List (Nat × Nat) :=
  match (graph.vertex number).content with
  | .mapping pairs => pairs
  | _ => []

/-! ### Numbering -/

/-- A graph that grows, and the numbers of the nodes that have anchors. -/
structure Growth where
  graph : Graph
  anchored : List (String × Nat)

/-- Numbering of nodes. -/
abbrev Numbering := StateM Growth

/-- Numbers a node with what is before its content. -/
def enter (head : NodeHead) (vertex : Vertex) : Numbering Nat := do
  let known ← get
  let number := known.graph.size
  let anchored := match head.anchor with
    | none => known.anchored
    | some name => (name, number) :: known.anchored
  StateT.set ⟨known.graph.push vertex, anchored⟩
  return number

/-- Gives a node that has a number its content. -/
def leave (number : Nat) (content : Content) : Numbering Nat := do
  modify fun known => { known with graph := known.graph.fill number content }
  return number

mutual

/-- Numbers a node, before those in it, because they may cite it. -/
def number : Node → Numbering Nat
  | .scalar head text => enter head (.ofScalar head text)
  | .sequence head items => do
    let place ← enter head (.ofSequence head)
    leave place (.sequence (← numberItems items))
  | .mapping head pairs => do
    let place ← enter head (.ofMapping head)
    leave place (.mapping (← numberPairs pairs))
  | .aliasOf name _ => return ((← get).anchored.lookup name).getD 0

/-- Numbers some nodes. -/
def numberItems : List Node → Numbering (List Nat)
  | [] => return []
  | item :: rest => do
    let first ← number item
    return first :: (← numberItems rest)

/-- Numbers some pairs of nodes. -/
def numberPairs : List (Node × Node) → Numbering (List (Nat × Nat))
  | [] => return []
  | (key, content) :: rest => do
    let keyNumber ← number key
    let contentNumber ← number content
    return (keyNumber, contentNumber) :: (← numberPairs rest)

end

/-- The graph of the document with a root. -/
def ofRoot (root : Node) : Graph :=
  ((number root).run ⟨⟨#[]⟩, []⟩).2.graph

/-! ### Merging -/

/-- A fault at a place in the text. -/
def fault (context : Option Context) (problem : Problem) (line : Nat) : DataFailure :=
  .text (.marked context problem line)

/-- What was being read when a mapping is at fault. -/
def inMapping : Option Context := some (.constructing "a mapping")

/-- Whether the key of a pair is the mark for merging. -/
def merges (graph : Graph) (pair : Nat × Nat) : Bool :=
  (graph.vertex pair.1).tag == .merge

/-- How many marks for merging a graph has. -/
def mergeCount (graph : Graph) : Nat :=
  graph.vertices.foldl (fun count vertex =>
    match vertex.content with
    | .mapping pairs => count + pairs.countP graph.merges
    | _ => count) 0

/-- A graph in which a key that marks the plain value of a mapping is a text. -/
def withTextKey (graph : Graph) (pair : Nat × Nat) : Graph :=
  let key := graph.vertex pair.1
  if key.tag == .value then graph.set pair.1 { key with tag := .text } else graph

mutual

/-- Rewrites a mapping without the marks for merging: the pairs of the mappings that are merged come
first. `merged` holds those that have been merged so far. Every second step takes a mark out of the
graph. -/
def flatten (number : Nat) (merged : List (Nat × Nat)) : (fuel : Nat) → Graph →
    Except DataFailure Graph
  | 0, graph => .ok graph
  | fuel + 1, graph => do
    let pairs := graph.pairsAt number
    match pairs.find? graph.merges with
    | none =>
      return (pairs.foldl withTextKey graph).fill number (.mapping (merged ++ pairs))
    | some (_, source) =>
      let left := graph.fill number (.mapping (pairs.eraseP graph.merges))
      let (more, next) ← mergedPairs source fuel left
      flatten number (merged ++ more) fuel next

/-- The pairs that a node stands for behind a mark for merging. Of several mappings in a list the
last comes first. -/
def mergedPairs (source : Nat) : (fuel : Nat) → Graph →
    Except DataFailure (List (Nat × Nat) × Graph)
  | 0, graph => .ok ([], graph)
  | fuel + 1, graph => do
    let vertex := graph.vertex source
    match vertex.content with
    | .mapping _ =>
      let next ← flatten source [] fuel graph
      return (next.pairsAt source, next)
    | .sequence items =>
      items.foldlM (fun (known : List (Nat × Nat) × Graph) item => do
        let inner := known.2.vertex item
        match inner.content with
        | .mapping _ =>
          let next ← flatten item [] fuel known.2
          return (next.pairsAt item ++ known.1, next)
        | other =>
          throw (fault inMapping (.expectedNode "a mapping for merging" other.formName)
            inner.line)) ([], graph)
    | other =>
      throw (fault inMapping (.expectedNode "a mapping or list of mappings for merging"
        other.formName) vertex.line)

end

/-- A graph in which a mapping has no marks for merging. -/
def merge (graph : Graph) (number : Nat) : Except DataFailure Graph :=
  flatten number [] (2 * graph.mergeCount + 1) graph

end Graph

end LlmTxt.Yaml

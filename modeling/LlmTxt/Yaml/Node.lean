/-
This file reads the nodes of a YAML document from its tokens: scalars, sequences
and mappings, with the anchors that name them and the aliases that cite them. A
stream holds at most one document. The first fault in the order of the text is the
one reported, be it in the tokens, in their order, or in the use of an anchor.
-/

import LlmTxt.Yaml.Token.Stream

namespace LlmTxt.Yaml

/-- The tag of a node: one that is written out, or none, and then a plain scalar may stand for
something else than a text. -/
inductive Tag where
  | plain
  | quoted
  | explicit (name : String)
deriving DecidableEq, Repr

/-- What every node has: the anchor that names it, its tag, and the line on which it begins. -/
structure NodeHead where
  anchor : Option String
  tag : Tag
  line : Nat
deriving DecidableEq, Repr

/-- A node of a document. An alias stands for the node that its anchor names, and has its
line. -/
inductive Node where
  | scalar (head : NodeHead) (text : String)
  | sequence (head : NodeHead) (items : List Node)
  | mapping (head : NodeHead) (pairs : List (Node × Node))
  | aliasOf (name : String) (line : Nat)
deriving Repr

/-- The line on which a node begins. -/
def Node.line : Node → Nat
  | scalar head _ => head.line
  | sequence head _ => head.line
  | mapping head _ => head.line
  | aliasOf _ line => line

/-- The state of reading nodes: the tokens that are left, what ends them, the tag handles of the
document, and the anchors that have been given with the lines of their nodes. -/
structure Composition where
  tokens : List Token
  failure : Option Failure
  handles : List (String × String)
  anchors : List (String × Nat)

/-- Reading of nodes, which may fail. -/
abbrev Compose := StateT Composition (Except Failure)

namespace Compose

/-- The tag handles that every document has. -/
def defaultHandles : List (String × String) :=
  [("!", "!"), ("!!", "tag:yaml.org,2002:")]

/-- The next token. -/
def peek : Compose Token := do
  let state ← get
  match state.tokens, state.failure with
  | token :: _, _ => return token
  | [], some failure => throw failure
  | [], none => throw (.marked none .endOfStream 0)

/-- What the next token is. -/
def peekKind : Compose TokenKind := do
  return (← peek).kind

/-- Moves over the next token. -/
def skip : Compose Unit := do
  let _ ← peek
  modify fun state => { state with tokens := state.tokens.tail }

/-- Fails at the next token. -/
def failAtToken {Result : Type} (context : Option Context) (problem : TokenKind → Problem) :
    Compose Result := do
  let token ← peek
  throw (.marked context (problem token.kind) token.mark.line)

/-- The empty scalar that stands where a node is left out. -/
def emptyNode (line : Nat) : Node :=
  .scalar ⟨none, .plain, line⟩ ""

/-- The whole tag for a tag as it is written. -/
def resolveTag (tag : TagText) (line : Nat) : Compose String := do
  match tag.handle with
  | none => return tag.text
  | some handle =>
    match (← get).handles.lookup handle with
    | some expansion => return expansion ++ tag.text
    | none => throw (.marked (some (.parsing "a node")) (.undefinedHandle handle) line)

/-- Notes that an anchor names a node; no two nodes have the same one. -/
def bind (anchor : Option String) (line : Nat) : Compose Unit := do
  match anchor with
  | none => return ()
  | some name =>
    if ((← get).anchors.lookup name).isSome then
      throw (.marked (some (.duplicateAnchor name)) .secondOccurrence line)
    else modify fun state => { state with anchors := (name, line) :: state.anchors }

/-- The anchor and the tag before a node, in either order, and the line on which the first of
them begins. -/
def properties : Compose (Option String × Option String × Option Nat) := do
  let first ← peek
  let line := first.mark.line
  match first.kind with
  | .anchor name =>
    skip
    let second ← peek
    match second.kind with
    | .tag tag =>
      skip
      return (some name, some (← resolveTag tag second.mark.line), some line)
    | _ => return (some name, none, some line)
  | .tag tag =>
    skip
    let second ← peek
    match second.kind with
    | .anchor name =>
      skip
      return (some name, some (← resolveTag tag line), some line)
    | _ => return (none, some (← resolveTag tag line), some line)
  | _ => return (none, none, none)

/-- The tag of a node that has no content of its own, or is a collection. -/
def tagOf : Option String → Tag
  | none => .plain
  | some name => if name = "!" then .plain else .explicit name

/-- The tag of a scalar. -/
def scalarTag (plain : Bool) : Option String → Tag
  | none => if plain then .plain else .quoted
  | some name => if name = "!" then .plain else .explicit name

/-- Whether a token shows that a node of a block mapping is left out. -/
def endsBlockPart : TokenKind → Bool
  | .key | .value | .blockEnd => true
  | _ => false

/-- Whether a token shows that an item of a sequence without indentation is left out. -/
def endsIndentlessItem : TokenKind → Bool
  | .blockItem | .key | .value | .blockEnd => true
  | _ => false

/-- Whether a token ends what is in a flow sequence. -/
def endsFlowItem : TokenKind → Bool
  | .flowItem | .flowSequenceEnd => true
  | _ => false

/-- Whether a token ends what is in a flow mapping. -/
def endsFlowPair : TokenKind → Bool
  | .flowItem | .flowMappingEnd => true
  | _ => false

mutual

/-- The node at the next token. In a block, block collections may stand there, and as part of a
mapping also a sequence without indentation. -/
def node (block indentless : Bool) : (fuel : Nat) → Compose Node
  | 0 => throw (.marked none .endOfStream 0)
  | fuel + 1 => do
    let first ← peek
    match first.kind with
    | .aliasOf name =>
      skip
      match (← get).anchors.lookup name with
      | some line => return .aliasOf name line
      | none => throw (.marked none (.undefinedAlias name) first.mark.line)
    | _ =>
      let (anchor, tag, propertyLine) ← properties
      let token ← peek
      let line := propertyLine.getD token.mark.line
      let head : NodeHead := ⟨anchor, tagOf tag, line⟩
      if indentless && token.kind == .blockItem then
        bind anchor line
        return .sequence head (← indentlessItems fuel)
      else
        match token.kind with
        | .scalar text plain =>
          skip
          bind anchor line
          return .scalar ⟨anchor, scalarTag plain tag, line⟩ text
        | .flowSequenceStart =>
          bind anchor line
          skip
          return .sequence head (← flowItems true fuel)
        | .flowMappingStart =>
          bind anchor line
          skip
          return .mapping head (← flowPairs true fuel)
        | .blockSequenceStart =>
          if block then
            bind anchor line
            skip
            return .sequence head (← blockItems fuel)
          else noContent block anchor tag line
        | .blockMappingStart =>
          if block then
            bind anchor line
            skip
            return .mapping head (← blockPairs fuel)
          else noContent block anchor tag line
        | _ => noContent block anchor tag line

/-- The node where there is no content: with an anchor or a tag it is an empty scalar. -/
def noContent (block : Bool) (anchor tag : Option String) (line : Nat) : Compose Node := do
  if anchor.isSome || tag.isSome then
    bind anchor line
    return .scalar ⟨anchor, tagOf tag, line⟩ ""
  else
    let context := Context.parsing (if block then "a block node" else "a flow node")
    failAtToken (some context) fun kind => .expectedToken "the node content" kind.name

/-- The items of a block sequence, up to its end. -/
def blockItems : (fuel : Nat) → Compose (List Node)
  | 0 => return []
  | fuel + 1 => do
    let token ← peek
    match token.kind with
    | .blockItem =>
      skip
      let item ← match (← peekKind) with
        | .blockItem | .blockEnd => pure (emptyNode token.mark.line)
        | _ => node true false fuel
      return item :: (← blockItems fuel)
    | .blockEnd => skip; return []
    | _ =>
      failAtToken (some (.parsing "a block collection")) fun kind =>
        .expectedToken "<block end>" kind.name

/-- The items of a sequence that is not indented against the mapping around it. -/
def indentlessItems : (fuel : Nat) → Compose (List Node)
  | 0 => return []
  | fuel + 1 => do
    let token ← peek
    match token.kind with
    | .blockItem =>
      skip
      let item ← if endsIndentlessItem (← peekKind) then pure (emptyNode token.mark.line)
        else node true false fuel
      return item :: (← indentlessItems fuel)
    | _ => return []

/-- The pairs of a block mapping, up to its end. -/
def blockPairs : (fuel : Nat) → Compose (List (Node × Node))
  | 0 => return []
  | fuel + 1 => do
    let token ← peek
    match token.kind with
    | .key =>
      skip
      let key ← if endsBlockPart (← peekKind) then pure (emptyNode token.mark.line)
        else node true true fuel
      let next ← peek
      let value ← if next.kind == .value then do
          skip
          if endsBlockPart (← peekKind) then pure (emptyNode next.mark.line)
          else node true true fuel
        else pure (emptyNode next.mark.line)
      return (key, value) :: (← blockPairs fuel)
    | .blockEnd => skip; return []
    | _ =>
      failAtToken (some (.parsing "a block mapping")) fun kind =>
        .expectedToken "<block end>" kind.name

/-- The items of a flow sequence, up to its end. An item with a key mark is a mapping of one
pair. -/
def flowItems (first : Bool) : (fuel : Nat) → Compose (List Node)
  | 0 => return []
  | fuel + 1 => do
    if (← peekKind) == .flowSequenceEnd then
      skip
      return []
    else
      if !first then
        if (← peekKind) == .flowItem then skip
        else
          failAtToken (some (.parsing "a flow sequence")) fun kind =>
            .expectedSeparator ']' kind.name
      let token ← peek
      match token.kind with
      | .key =>
        skip
        let keyNext ← peekKind
        let key ← if keyNext == .value || endsFlowItem keyNext then
            pure (emptyNode token.mark.line)
          else node false false fuel
        let next ← peek
        let value ← if next.kind == .value then do
            skip
            if endsFlowItem (← peekKind) then pure (emptyNode next.mark.line)
            else node false false fuel
          else pure (emptyNode next.mark.line)
        return .mapping ⟨none, .plain, token.mark.line⟩ [(key, value)] :: (← flowItems false fuel)
      | .flowSequenceEnd => skip; return []
      | _ =>
        let item ← node false false fuel
        return item :: (← flowItems false fuel)

/-- The pairs of a flow mapping, up to its end. -/
def flowPairs (first : Bool) : (fuel : Nat) → Compose (List (Node × Node))
  | 0 => return []
  | fuel + 1 => do
    if (← peekKind) == .flowMappingEnd then
      skip
      return []
    else
      if !first then
        if (← peekKind) == .flowItem then skip
        else
          failAtToken (some (.parsing "a flow mapping")) fun kind =>
            .expectedSeparator '\x7d' kind.name
      let token ← peek
      match token.kind with
      | .key =>
        skip
        let keyNext ← peekKind
        let key ← if keyNext == .value || endsFlowPair keyNext then
            pure (emptyNode token.mark.line)
          else node false false fuel
        let next ← peek
        let value ← if next.kind == .value then do
            skip
            if endsFlowPair (← peekKind) then pure (emptyNode next.mark.line)
            else node false false fuel
          else pure (emptyNode next.mark.line)
        return (key, value) :: (← flowPairs false fuel)
      | .flowMappingEnd => skip; return []
      | _ =>
        let key ← node false false fuel
        let next ← peek
        return (key, emptyNode next.mark.line) :: (← flowPairs false fuel)

end

/-! ### Documents -/

/-- Moves over the lines that end a document. -/
def skipDocumentEnds : (fuel : Nat) → Compose Unit
  | 0 => return ()
  | fuel + 1 => do
    if (← peekKind) == .documentEnd then
      skip
      skipDocumentEnds fuel

/-- Reads the directives before a document. `versioned` says whether one has declared a version,
and `declared` holds the handles that have been declared. -/
def directives (versioned : Bool) (declared : List (String × String)) :
    (fuel : Nat) → Compose Unit
  | 0 => return ()
  | fuel + 1 => do
    let token ← peek
    match token.kind with
    | .directive (.version major _) =>
      if versioned then throw (.marked none .duplicateVersion token.mark.line)
      else if major != 1 then throw (.marked none .incompatibleVersion token.mark.line)
      else
        skip
        directives true declared fuel
    | .directive (.tagHandle handle expansion) =>
      if (declared.lookup handle).isSome then
        throw (.marked none (.duplicateHandle handle) token.mark.line)
      else
        skip
        directives versioned ((handle, expansion) :: declared) fuel
    | .directive .reserved =>
      skip
      directives versioned declared fuel
    | _ => modify fun state => { state with handles := declared ++ defaultHandles }

/-- Reads the directives of a document and the line that begins it. -/
def documentStart (fuel : Nat) : Compose Unit := do
  directives false [] fuel
  if (← peekKind) == .documentStart then skip
  else
    failAtToken none fun kind => .expectedToken "'<document start>'" kind.name

/-- Whether a token shows that a document has no content. -/
def endsDocument : TokenKind → Bool
  | .directive _ | .documentStart | .documentEnd | .streamEnd => true
  | _ => false

/-- Reads the end of the stream behind a document. -/
def streamRest (fuel : Nat) : Compose Unit := do
  skipDocumentEnds fuel
  let token ← peek
  if token.kind != .streamEnd then
    documentStart fuel
    throw (.marked (some .singleDocument) .anotherDocument token.mark.line)

/-- The node of the only document of a stream, if there is a document. -/
def document (fuel : Nat) : Compose (Option Node) := do
  skip
  match (← peekKind) with
  | .streamEnd => return none
  | .directive _ | .documentStart =>
    documentStart fuel
    let token ← peek
    let root ← if endsDocument token.kind then pure (emptyNode token.mark.line)
      else node true false fuel
    streamRest fuel
    return some root
  | _ =>
    let root ← node true false fuel
    streamRest fuel
    return some root

end Compose

/-- The root of the only document in a text, if there is a document. -/
def Node.ofText? (characters : List Char) : Except Failure (Option Node) :=
  let stream := TokenStream.ofText characters
  let fuel := 4 * stream.tokens.length + 16
  (Compose.document fuel).run' ⟨stream.tokens, stream.failure, Compose.defaultHandles, []⟩

end LlmTxt.Yaml

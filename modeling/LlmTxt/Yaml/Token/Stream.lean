/-
This file turns a YAML text into its tokens. A colon may show that a node read
before it is a key, so a node that could be a key is held back until that is
known, and tokens may still be put before it. A token is delivered as soon as
nothing can come before it any more. Reading fails where the text is at fault, and
the tokens delivered before the fault stay: who reads the tokens may find another
fault among them, which then comes first.
-/

import LlmTxt.Yaml.Token.Property

namespace LlmTxt.Yaml

/-- A node that is a key if a colon follows it: the number of its token, whether it must be a key
because of its indentation, and where it begins. -/
structure KeyCandidate where
  token : Nat
  required : Bool
  mark : Mark
deriving Repr

/-- The state of reading tokens. -/
structure Lexer where
  cursor : Cursor
  /-- Whether the end of the text has been read. -/
  finished : Bool
  /-- The number of flow collections around the cursor. -/
  flowLevel : Int
  /-- Tokens that have been read and not delivered. -/
  pending : List Token
  /-- The number of tokens delivered. -/
  delivered : Nat
  /-- The column of the block collection around the cursor, or one below zero. -/
  indent : Int
  /-- The columns of the block collections around that one. -/
  outerIndents : List Int
  /-- Whether a key may begin at the cursor. -/
  keyAllowed : Bool
  /-- The candidates for keys, at most one for each level of flow collections. -/
  candidates : List (Int × KeyCandidate)

namespace Lexer

/-- The beginning of a text. -/
def ofText (characters : List Char) : Lexer where
  cursor := .ofText characters
  finished := false
  flowLevel := 0
  pending := [⟨.streamStart, ⟨0, 0, 0⟩⟩]
  delivered := 0
  indent := -1
  outerIndents := []
  keyAllowed := true
  candidates := []

/-- Whether the cursor is inside a flow collection. -/
def inFlow (lexer : Lexer) : Bool :=
  lexer.flowLevel != 0

/-- The column of the cursor. -/
def column (lexer : Lexer) : Int :=
  lexer.cursor.mark.column

/-- Fails at the cursor because a candidate that must be a key is followed by no colon. -/
def failAtCandidate {Result : Type} (lexer : Lexer) : Except Failure Result :=
  lexer.cursor.fail (some (.scanning "a simple key")) .missingColon

/-- Reads on as if a token came at a place. -/
def push (lexer : Lexer) (kind : TokenKind) (mark : Mark) : Lexer :=
  { lexer with pending := lexer.pending ++ [⟨kind, mark⟩] }

/-- Whether a candidate is too far behind to be a key. -/
def isStale (lexer : Lexer) (candidate : KeyCandidate) : Bool :=
  candidate.mark.line != lexer.cursor.mark.line ||
    candidate.mark.index + 1024 < lexer.cursor.mark.index

/-- Gives up the candidates that are too far behind. -/
def dropStale (lexer : Lexer) : Except Failure Lexer :=
  let (stale, kept) := lexer.candidates.partition fun entry => lexer.isStale entry.2
  if stale.any (·.2.required) then lexer.failAtCandidate
  else .ok { lexer with candidates := kept }

/-- Gives up the candidate of the current level. -/
def dropCandidate (lexer : Lexer) : Except Failure Lexer :=
  match lexer.candidates.lookup lexer.flowLevel with
  | none => .ok lexer
  | some candidate =>
    if candidate.required then lexer.failAtCandidate
    else
      .ok { lexer with candidates := lexer.candidates.filter (·.1 != lexer.flowLevel) }

/-- Makes the token that comes next a candidate, if a key may begin here. -/
def saveCandidate (lexer : Lexer) : Except Failure Lexer :=
  if lexer.keyAllowed then do
    let required := !lexer.inFlow && lexer.indent == lexer.column
    let cleared ← lexer.dropCandidate
    let candidate : KeyCandidate :=
      ⟨cleared.delivered + cleared.pending.length, required, cleared.cursor.mark⟩
    return { cleared with candidates := (cleared.flowLevel, candidate) :: cleared.candidates }
  else .ok lexer

/-- The tokens that end the block collections indented by more than `column`, and the columns of
those that stay. -/
def unwound (column : Int) (mark : Mark) : (indent : Int) → (outer : List Int) →
    List Token × Int × List Int
  | indent, [] => ([], indent, [])
  | indent, next :: outer =>
    if column < indent then
      let (ends, indent, outer) := unwound column mark next outer
      (⟨.blockEnd, mark⟩ :: ends, indent, outer)
    else ([], indent, next :: outer)

/-- Ends the block collections indented by more than `column`. -/
def unwind (lexer : Lexer) (column : Int) : Lexer :=
  if lexer.inFlow then lexer
  else
    let (ends, indent, outer) :=
      unwound column lexer.cursor.mark lexer.indent lexer.outerIndents
    { lexer with pending := lexer.pending ++ ends, indent := indent, outerIndents := outer }

/-- Begins a block collection at a column, if that is further in than the one around it. -/
def indentTo (lexer : Lexer) (column : Int) : Option Lexer :=
  if lexer.indent < column then
    some { lexer with indent := column, outerIndents := lexer.indent :: lexer.outerIndents }
  else none

/-- Begins a block collection at the cursor, if that is further in than the one around it. -/
def openBlock (lexer : Lexer) (kind : TokenKind) : Lexer :=
  match lexer.indentTo lexer.column with
  | some indented => indented.push kind lexer.cursor.mark
  | none => lexer

/-- Moves over spaces, comments and line breaks. A line break outside flow collections allows a
key. -/
def skipToToken : (fuel : Nat) → Lexer → Lexer
  | 0, lexer => lexer
  | fuel + 1, lexer =>
    let spaced := lexer.cursor.skipSpaces
    let stop := if spaced.peek == '#' then spaced.skipLine else spaced
    match stop.takeBreak with
    | ([], _) => { lexer with cursor := stop }
    | (_, next) =>
      skipToToken fuel
        { lexer with cursor := next, keyAllowed := lexer.keyAllowed || !lexer.inFlow }

/-- Moves to the next token; a byte order mark at the very beginning counts as nothing. -/
def skipBlanks (lexer : Lexer) : Lexer :=
  let cursor := lexer.cursor
  let started :=
    if cursor.mark.index = 0 && cursor.peek == '\uFEFF' then { lexer with cursor := cursor.step }
    else lexer
  skipToToken (cursor.rest.length + 1) started

/-! ### Reading one token -/

/-- Reads the end of the text. -/
def readEnd (lexer : Lexer) : Except Failure Lexer := do
  let cleared ← (lexer.unwind (-1)).dropCandidate
  return { cleared.push .streamEnd lexer.cursor.mark with
    keyAllowed := false, candidates := [], finished := true }

/-- Reads a directive. -/
def readDirective (lexer : Lexer) : Except Failure Lexer := do
  let cleared ← (lexer.unwind (-1)).dropCandidate
  let (directive, next) ← lexer.cursor.takeDirective
  return { cleared.push (.directive directive) lexer.cursor.mark with
    keyAllowed := false, cursor := next }

/-- Reads a line that separates documents. -/
def readSeparator (lexer : Lexer) (kind : TokenKind) : Except Failure Lexer := do
  let cleared ← (lexer.unwind (-1)).dropCandidate
  return { cleared.push kind lexer.cursor.mark with
    keyAllowed := false, cursor := lexer.cursor.advance 3 }

/-- Reads the beginning of a flow collection, which may itself be a key. -/
def readFlowStart (lexer : Lexer) (kind : TokenKind) : Except Failure Lexer := do
  let saved ← lexer.saveCandidate
  return { saved.push kind lexer.cursor.mark with
    flowLevel := lexer.flowLevel + 1, keyAllowed := true, cursor := lexer.cursor.step }

/-- Reads the end of a flow collection. -/
def readFlowEnd (lexer : Lexer) (kind : TokenKind) : Except Failure Lexer := do
  let cleared ← lexer.dropCandidate
  return { cleared.push kind lexer.cursor.mark with
    flowLevel := lexer.flowLevel - 1, keyAllowed := false, cursor := lexer.cursor.step }

/-- Reads the comma between the items of a flow collection. -/
def readFlowItem (lexer : Lexer) : Except Failure Lexer := do
  let cleared ← lexer.dropCandidate
  return { cleared.push .flowItem lexer.cursor.mark with
    keyAllowed := true, cursor := lexer.cursor.step }

/-- Reads the dash before an item of a block sequence. -/
def readBlockItem (lexer : Lexer) : Except Failure Lexer := do
  if !lexer.inFlow && !lexer.keyAllowed then
    lexer.cursor.fail none (.notAllowedHere "sequence entries")
  else
    let opened := if lexer.inFlow then lexer else lexer.openBlock .blockSequenceStart
    let cleared ← opened.dropCandidate
    return { cleared.push .blockItem lexer.cursor.mark with
      keyAllowed := true, cursor := lexer.cursor.step }

/-- Reads the question mark before a key. -/
def readKey (lexer : Lexer) : Except Failure Lexer := do
  if !lexer.inFlow && !lexer.keyAllowed then
    lexer.cursor.fail none (.notAllowedHere "mapping keys")
  else
    let opened := if lexer.inFlow then lexer else lexer.openBlock .blockMappingStart
    let cleared ← opened.dropCandidate
    return { cleared.push .key lexer.cursor.mark with
      keyAllowed := !lexer.inFlow, cursor := lexer.cursor.step }

/-- Puts the tokens of a key before its candidate. -/
def insertKey (lexer : Lexer) (candidate : KeyCandidate) : Lexer :=
  let place := candidate.token - lexer.delivered
  let indented := if lexer.inFlow then none else lexer.indentTo candidate.mark.column
  let start : List Token :=
    if indented.isSome then [⟨.blockMappingStart, candidate.mark⟩] else []
  let tokens := start ++ [⟨.key, candidate.mark⟩]
  { indented.getD lexer with
    pending := lexer.pending.take place ++ tokens ++ lexer.pending.drop place }

/-- Reads the colon before a value. If there is a candidate for the key, it becomes one. -/
def readValue (lexer : Lexer) : Except Failure Lexer := do
  match lexer.candidates.lookup lexer.flowLevel with
  | some candidate =>
    let chosen := { lexer with candidates := lexer.candidates.filter (·.1 != lexer.flowLevel) }
    return { (chosen.insertKey candidate).push .value lexer.cursor.mark with
      keyAllowed := false, cursor := lexer.cursor.step }
  | none =>
    if !lexer.inFlow && !lexer.keyAllowed then
      lexer.cursor.fail none (.notAllowedHere "mapping values")
    else
      let opened := if lexer.inFlow then lexer else lexer.openBlock .blockMappingStart
      return { opened.push .value lexer.cursor.mark with
        keyAllowed := !lexer.inFlow, cursor := lexer.cursor.step }

/-- Reads an alias or an anchor. -/
def readAnchor (lexer : Lexer) (kind : String → TokenKind) : Except Failure Lexer := do
  let saved ← lexer.saveCandidate
  let (name, next) ← lexer.cursor.takeAnchorName
  return { saved.push (kind name) lexer.cursor.mark with keyAllowed := false, cursor := next }

/-- Reads a tag. -/
def readTag (lexer : Lexer) : Except Failure Lexer := do
  let saved ← lexer.saveCandidate
  let (tag, next) ← lexer.cursor.takeTag
  return { saved.push (.tag tag) lexer.cursor.mark with keyAllowed := false, cursor := next }

/-- Reads a block scalar. -/
def readBlockScalar (lexer : Lexer) (folded : Bool) : Except Failure Lexer := do
  let cleared ← lexer.dropCandidate
  let (text, next) ← lexer.cursor.takeBlock folded lexer.indent
  return { cleared.push (.scalar (String.ofList text) false) lexer.cursor.mark with
    keyAllowed := true, cursor := next }

/-- Reads a scalar between quotes. -/
def readQuoted (lexer : Lexer) : Except Failure Lexer := do
  let saved ← lexer.saveCandidate
  let (text, next) ← lexer.cursor.takeQuoted
  return { saved.push (.scalar (String.ofList text) false) lexer.cursor.mark with
    keyAllowed := false, cursor := next }

/-- Reads a plain scalar. -/
def readPlain (lexer : Lexer) : Except Failure Lexer := do
  let saved ← lexer.saveCandidate
  let scalar := lexer.cursor.takePlain lexer.inFlow (lexer.indent + 1).toNat
  return { saved.push (.scalar (String.ofList scalar.text) true) lexer.cursor.mark with
    keyAllowed := scalar.broken, cursor := scalar.cursor }

/-- The characters with which no plain scalar begins. -/
def isIndicator (character : Char) : Bool :=
  ['-', '?', ':', ',', '[', ']', '\x7b', '\x7d', '#', '&', '*', '!', '|', '>', '\'', '"', '%', '@',
    '\x60'].contains character

/-- Whether a plain scalar begins at the cursor. -/
def atPlain (lexer : Lexer) : Bool :=
  let character := lexer.cursor.peek
  !(isBlankOrEnd character || isIndicator character) ||
    (!isBlankOrEnd (lexer.cursor.peekAt 1) &&
      (character == '-' || (!lexer.inFlow && (character == '?' || character == ':'))))

/-- Reads the token at the cursor. -/
def readToken (lexer : Lexer) : Except Failure Lexer :=
  let cursor := lexer.cursor
  let character := cursor.peek
  let atLineStart := cursor.mark.column == 0
  let followed := isBlankOrEnd (cursor.peekAt 1)
  if character == '\x00' then lexer.readEnd
  else if character == '%' && atLineStart then lexer.readDirective
  else if atLineStart && cursor.showsThree '-' then lexer.readSeparator .documentStart
  else if atLineStart && cursor.showsThree '.' then lexer.readSeparator .documentEnd
  else if character == '[' then lexer.readFlowStart .flowSequenceStart
  else if character == '\x7b' then lexer.readFlowStart .flowMappingStart
  else if character == ']' then lexer.readFlowEnd .flowSequenceEnd
  else if character == '\x7d' then lexer.readFlowEnd .flowMappingEnd
  else if character == ',' then lexer.readFlowItem
  else if character == '-' && followed then lexer.readBlockItem
  else if character == '?' && (lexer.inFlow || followed) then lexer.readKey
  else if character == ':' && (lexer.inFlow || followed) then lexer.readValue
  else if character == '*' then lexer.readAnchor .aliasOf
  else if character == '&' then lexer.readAnchor .anchor
  else if character == '!' then lexer.readTag
  else if character == '|' && !lexer.inFlow then lexer.readBlockScalar false
  else if character == '>' && !lexer.inFlow then lexer.readBlockScalar true
  else if character == '\'' || character == '"' then lexer.readQuoted
  else if lexer.atPlain then lexer.readPlain
  else cursor.fail (some (.scanning "for the next token")) (.cannotStartToken character)

/-- Moves to the next token and reads it. -/
def read (lexer : Lexer) : Except Failure Lexer := do
  let fresh ← lexer.skipBlanks.dropStale
  (fresh.unwind fresh.column).readToken

/-- The lowest number among the tokens of the candidates. -/
def firstCandidate (lexer : Lexer) : Option Nat :=
  (lexer.candidates.map (·.2.token)).min?

/-- Reads until the next token can be delivered, and delivers it. Every reading shortens the text
or ends it, so `fuel` above its length is enough. -/
def deliver : (fuel : Nat) → Lexer → Except Failure (Option (Token × Lexer))
  | 0, _ => .ok none
  | fuel + 1, lexer =>
    match lexer.pending with
    | [] => if lexer.finished then .ok none else do deliver fuel (← lexer.read)
    | token :: rest =>
      if lexer.finished then
        .ok (some (token, { lexer with pending := rest, delivered := lexer.delivered + 1 }))
      else do
        let fresh ← lexer.dropStale
        if fresh.firstCandidate == some fresh.delivered then deliver fuel (← fresh.read)
        else
          return some (token, { fresh with pending := rest, delivered := fresh.delivered + 1 })

end Lexer

/-- The tokens of a text, and the failure that ends them, if there is one. -/
structure TokenStream where
  tokens : List Token
  failure : Option Failure

namespace TokenStream

/-- The tokens that a lexer still delivers. -/
def ofLexer : (fuel : Nat) → Lexer → TokenStream
  | 0, _ => ⟨[], none⟩
  | fuel + 1, lexer =>
    match lexer.deliver (lexer.cursor.rest.length + 2) with
    | .error failure => ⟨[], some failure⟩
    | .ok none => ⟨[], none⟩
    | .ok (some (token, next)) =>
      let more := ofLexer fuel next
      { more with tokens := token :: more.tokens }

/-- The first character that no text may hold, with its position. -/
def findUnacceptable : (position : Nat) → List Char → Option (Char × Nat)
  | _, [] => none
  | position, character :: rest =>
    let point := character.toNat
    let accepted := point == 9 || point == 10 || point == 13 || (32 ≤ point && point ≤ 126) ||
      point == 0x85 || (0xA0 ≤ point && point ≤ 0xFFFD) || 0x10000 ≤ point
    if accepted then findUnacceptable (position + 1) rest else some (character, position)

/-- The tokens of a text. A token is at most one of the text, the end, or one of the two that a
character adds, which bounds their number. -/
def ofText (characters : List Char) : TokenStream :=
  match findUnacceptable 0 characters with
  | some (character, position) =>
    ⟨[], some (.rejected (.unacceptable character position))⟩
  | none => ofLexer (4 * characters.length + 8) (Lexer.ofText characters)

end TokenStream

end LlmTxt.Yaml

/-
This file reads the scalars of YAML: those between quotes, the plain ones, and the
block ones that keep or fold their lines. In quoted and plain scalars a line break
between two words becomes a space, and an empty line becomes a line break. In a
block scalar the indentation says which lines belong to it.
-/

import LlmTxt.Yaml.Token

namespace LlmTxt.Yaml.Cursor

/-! ### Scalars between quotes -/

/-- The characters of which a quoted scalar takes as many as there are at once. -/
def isQuotedRun (character : Char) : Bool :=
  !(character == '\'' || character == '"' || character == '\\' || isBlankOrEnd character)

/-- The character for which an escape of one character stands. -/
def escaped? : Char → Option Char
  | '0' => some '\x00'
  | 'a' => some '\x07'
  | 'b' => some '\x08'
  | 't' => some '\t'
  | '\t' => some '\t'
  | 'n' => some '\n'
  | 'v' => some '\x0b'
  | 'f' => some '\x0c'
  | 'r' => some '\r'
  | 'e' => some '\x1b'
  | ' ' => some ' '
  | '"' => some '"'
  | '\\' => some '\\'
  | '/' => some '/'
  | 'N' => some '\x85'
  | '_' => some '\xa0'
  | 'L' => some '\u2028'
  | 'P' => some '\u2029'
  | _ => none

/-- How many hexadecimal digits follow an escape that names a code point. -/
def escapeWidth? : Char → Option Nat
  | 'x' => some 2
  | 'u' => some 4
  | 'U' => some 8
  | _ => none

/-- The value of a hexadecimal digit. -/
def hexValue? (character : Char) : Option Nat :=
  if character.isDigit then some (character.toNat - 48)
  else if 'a' ≤ character && character ≤ 'f' then some (character.toNat - 87)
  else if 'A' ≤ character && character ≤ 'F' then some (character.toNat - 55)
  else none

/-- The value of as many hexadecimal digits as there are among the first `width` characters, and
the first character that is none. -/
def hexRun (cursor : Cursor) (width : Nat) : Except Char Nat :=
  (List.range width).foldlM (fun value distance =>
    let character := cursor.peekAt distance
    match hexValue? character with
    | some digit => .ok (value * 16 + digit)
    | none => .error character) 0

/-- The line breaks before the next word of a quoted scalar, and the cursor at the word. A line
that separates documents may not stand inside the scalar. -/
def quotedBreaks : (fuel : Nat) → Cursor → Except Failure (List Char × Cursor)
  | 0, cursor => .ok ([], cursor)
  | fuel + 1, cursor =>
    if cursor.atSeparator then
      cursor.fail (some (.scanning "a quoted scalar")) .documentSeparator
    else
      let indented := cursor.skipWhile fun character => character == ' ' || character == '\t'
      match indented.takeBreak with
      | ([], _) => .ok ([], indented)
      | (ending, next) => do
        let (more, stop) ← quotedBreaks fuel next
        return (ending ++ more, stop)

/-- The escape after a backslash, and the cursor behind it. A surrogate is read as its stand-in. -/
def takeEscape (cursor : Cursor) : Except Failure (List Char × Cursor) :=
  let context := some (Context.scanning "a double-quoted scalar")
  let character := cursor.peek
  match escaped? character, escapeWidth? character with
  | some meaning, _ => .ok ([meaning], cursor.step)
  | none, some width =>
    let digits := cursor.step
    match digits.hexRun width with
    | .error found =>
      digits.fail context
        (.expected ("escape sequence of " ++ toString width ++ " hexadecimal numbers") found)
    | .ok value =>
      if 0x10FFFF < value then .error (.escapeOutOfRange value)
      else .ok ([Text.ofCodePoint value], digits.advance width)
  | none, none =>
    match cursor.takeBreak with
    | ([], _) => cursor.fail context (.unknownEscape character)
    | (_, next) => quotedBreaks (next.rest.length + 1) next

/-- The characters of a quoted scalar up to white space or the closing quote. -/
def quotedWords (double : Bool) : (fuel : Nat) → Cursor → Except Failure (List Char × Cursor)
  | 0, cursor => .ok ([], cursor)
  | fuel + 1, cursor => do
    let (run, cursor) := cursor.takeWhile isQuotedRun
    let character := cursor.peek
    if !double && character == '\'' && cursor.peekAt 1 == '\'' then
      let (more, stop) ← quotedWords double fuel (cursor.advance 2)
      return (run ++ '\'' :: more, stop)
    else if (double && character == '\'') ||
        (!double && (character == '"' || character == '\\')) then
      let (more, stop) ← quotedWords double fuel cursor.step
      return (run ++ character :: more, stop)
    else if double && character == '\\' then
      let (meaning, next) ← cursor.step.takeEscape
      let (more, stop) ← quotedWords double fuel next
      return (run ++ meaning ++ more, stop)
    else return (run, cursor)

/-- The white space of a quoted scalar as it counts, and the cursor behind it. -/
def quotedBlanks (cursor : Cursor) : Except Failure (List Char × Cursor) := do
  let (blanks, cursor) := cursor.takeWhile fun character => character == ' ' || character == '\t'
  if cursor.peek == '\x00' then
    cursor.fail (some (.scanning "a quoted scalar")) .endOfStream
  else
    match cursor.takeBreak with
    | ([], _) => return (blanks, cursor)
    | (ending, next) =>
      let (breaks, stop) ← quotedBreaks (next.rest.length + 1) next
      if ending != ['\n'] then return (ending ++ breaks, stop)
      else if breaks.isEmpty then return ([' '], stop)
      else return (breaks, stop)

/-- The rest of a quoted scalar up to the closing quote. -/
def quotedRest (double : Bool) (quote : Char) :
    (fuel : Nat) → Cursor → Except Failure (List Char × Cursor)
  | 0, cursor => .ok ([], cursor)
  | fuel + 1, cursor => do
    let (words, cursor) ← quotedWords double (cursor.rest.length + 1) cursor
    if cursor.peek == quote then return (words, cursor.step)
    else
      let (blanks, next) ← cursor.quotedBlanks
      let (more, stop) ← quotedRest double quote fuel next
      return (words ++ blanks ++ more, stop)

/-- The quoted scalar at the cursor, and the cursor behind its closing quote. -/
def takeQuoted (cursor : Cursor) : Except Failure (List Char × Cursor) :=
  let quote := cursor.peek
  quotedRest (quote == '"') quote (cursor.rest.length + 1) cursor.step

/-! ### Plain scalars -/

/-- How many characters a plain scalar takes before white space or a mark of the structure. -/
def plainRun (inFlow : Bool) : List Char → Nat
  | [] => 0
  | character :: rest =>
    let following := rest.headD '\x00'
    let isFlowMark := following == ',' || following == '[' || following == ']' ||
      following == '\x7b' || following == '\x7d'
    if isBlankOrEnd character ||
        (character == ':' && (isBlankOrEnd following || (inFlow && isFlowMark))) ||
        (inFlow && (character == ',' || character == '?' || character == '[' || character == ']' ||
          character == '\x7b' || character == '\x7d')) then 0
    else 1 + plainRun inFlow rest

/-- What follows a line break inside a plain scalar: the further breaks, and the cursor at the
next word; nothing if a document separator comes first. -/
def plainBreaks : (fuel : Nat) → Cursor → Option (List Char × Cursor) × Cursor
  | 0, cursor => (some ([], cursor), cursor)
  | fuel + 1, cursor =>
    if cursor.atSeparator then (none, cursor)
    else
      let indented := cursor.skipSpaces
      match indented.takeBreak with
      | ([], _) => (some ([], indented), indented)
      | (ending, next) =>
        match plainBreaks fuel next with
        | (some (more, stop), last) => (some (ending ++ more, stop), last)
        | (none, last) => (none, last)

/-- The white space behind a word of a plain scalar. -/
structure PlainGap where
  /-- The white space as it counts, empty if the scalar ends. -/
  text : List Char
  /-- The place behind the white space. -/
  cursor : Cursor
  /-- Whether a line ended. -/
  broken : Bool

/-- The white space behind a word of a plain scalar. -/
def plainGap (cursor : Cursor) : PlainGap :=
  let (blanks, cursor) := cursor.takeWhile (· == ' ')
  match cursor.takeBreak with
  | ([], _) => ⟨blanks, cursor, false⟩
  | (ending, next) =>
    match plainBreaks (next.rest.length + 1) next with
    | (none, stop) => ⟨[], stop, true⟩
    | (some (breaks, stop), _) =>
      if ending != ['\n'] then ⟨ending ++ breaks, stop, true⟩
      else if breaks.isEmpty then ⟨[' '], stop, true⟩
      else ⟨breaks, stop, true⟩

/-- What reading a plain scalar leaves: its text, the place behind it, and whether the last white
space behind it ended a line. -/
structure PlainScalar where
  text : List Char
  cursor : Cursor
  broken : Bool

/-- The words of a plain scalar; `pending` is the white space before the next one. -/
def plainWords (inFlow : Bool) (indent : Nat) :
    (fuel : Nat) → (pending : List Char) → (broken : Bool) → Cursor → PlainScalar
  | 0, _, broken, cursor => ⟨[], cursor, broken⟩
  | fuel + 1, pending, broken, cursor =>
    let length := if cursor.peek == '#' then 0 else plainRun inFlow cursor.rest
    if length = 0 then ⟨[], cursor, broken⟩
    else
      let word := cursor.rest.take length
      let gap := (cursor.advance length).plainGap
      if gap.text.isEmpty || gap.cursor.peek == '#' ||
          (!inFlow && gap.cursor.mark.column < indent) then
        ⟨pending ++ word, gap.cursor, gap.broken⟩
      else
        let more := plainWords inFlow indent fuel gap.text gap.broken gap.cursor
        { more with text := pending ++ word ++ more.text }

/-- The plain scalar at the cursor, whose lines after the first begin at a column of at least
`indent`. -/
def takePlain (cursor : Cursor) (inFlow : Bool) (indent : Nat) : PlainScalar :=
  plainWords inFlow indent (cursor.rest.length + 1) [] false cursor

/-! ### Block scalars -/

/-- What is kept of the line breaks at the end of a block scalar. -/
inductive Chomping where
  | strip
  | clip
  | keep
deriving DecidableEq, Repr

/-- The chomping mark at the cursor, if there is one. -/
def takeChomping (cursor : Cursor) : Option Chomping × Cursor :=
  if cursor.peek == '+' then (some .keep, cursor.step)
  else if cursor.peek == '-' then (some .strip, cursor.step)
  else (none, cursor)

/-- The indentation mark at the cursor, if there is one. -/
def takeIncrement (cursor : Cursor) : Except Failure (Option Nat × Cursor) :=
  if cursor.peek.isDigit then
    if cursor.peek == '0' then
      cursor.fail (some (.scanning "a block scalar")) .zeroIndentation
    else .ok (some (cursor.peek.toNat - 48), cursor.step)
  else .ok (none, cursor)

/-- The two marks of the header of a block scalar, which stand in either order. -/
def takeBlockMarks (cursor : Cursor) : Except Failure (Chomping × Option Nat × Cursor) := do
  let (chomping, increment, stop) ← match cursor.takeChomping with
    | (some chomping, next) => do
      let (increment, stop) ← next.takeIncrement
      pure (chomping, increment, stop)
    | (none, _) => do
      let (increment, next) ← cursor.takeIncrement
      match increment with
      | none => pure (Chomping.clip, none, next)
      | some width =>
        let (chomping, stop) := next.takeChomping
        pure (chomping.getD .clip, some width, stop)
  if isSpaceOrEnd stop.peek then return (chomping, increment, stop)
  else
    stop.fail (some (.scanning "a block scalar"))
      (.expected "chomping or indentation indicators" stop.peek)

/-- The cursor behind the rest of a line that may hold a comment and nothing else. -/
def skipComment (cursor : Cursor) (context : Context) : Except Failure Cursor :=
  let spaced := cursor.skipSpaces
  let stop := if spaced.peek == '#' then spaced.skipLine else spaced
  if isBreakOrEnd stop.peek then .ok stop.takeBreak.2
  else stop.fail (some context) (.expected "a comment or a line break" stop.peek)

/-- The empty lines at the beginning of a block scalar, the widest indentation among them and the
line after them, and the cursor. -/
def blockStart : (fuel : Nat) → (widest : Nat) → Cursor → List Char × Nat × Cursor
  | 0, widest, cursor => ([], widest, cursor)
  | fuel + 1, widest, cursor =>
    let spaced := cursor.skipSpaces
    let widest := if spaced.mark.index = cursor.mark.index then widest
      else max widest spaced.mark.column
    match spaced.takeBreak with
    | ([], _) => ([], widest, spaced)
    | (ending, next) =>
      let (breaks, widest, stop) := blockStart fuel widest next
      (ending ++ breaks, widest, stop)

/-- The cursor behind spaces, at most up to a column. -/
def skipIndent (cursor : Cursor) (indent : Nat) : Cursor :=
  let width := (cursor.rest.takeWhile (· == ' ')).length
  cursor.advance (min width (indent - cursor.mark.column))

/-- The empty lines before the next line of a block scalar, and the cursor at that line. -/
def blockBreaks (indent : Nat) : (fuel : Nat) → Cursor → List Char × Cursor
  | 0, cursor => ([], cursor)
  | fuel + 1, cursor =>
    let indented := cursor.skipIndent indent
    match indented.takeBreak with
    | ([], _) => ([], indented)
    | (ending, next) =>
      let (breaks, stop) := blockBreaks indent fuel next
      (ending ++ breaks, stop)

/-- The lines of a block scalar from the cursor on: their text, the last line break, the empty
lines at the end, and the cursor. -/
def blockLines (folded : Bool) (indent : Nat) :
    (fuel : Nat) → (ending breaks : List Char) → Cursor →
      List Char × List Char × List Char × Cursor
  | 0, ending, breaks, cursor => ([], ending, breaks, cursor)
  | fuel + 1, ending, breaks, cursor =>
    if cursor.mark.column = indent && cursor.peek != '\x00' then
      let startsWide := cursor.peek == ' ' || cursor.peek == '\t'
      let line := cursor.rest.takeWhile fun character => !isBreakOrEnd character
      let (newEnding, next) := (cursor.advance line.length).takeBreak
      let (newBreaks, stop) := blockBreaks indent (next.rest.length + 1) next
      if stop.mark.column = indent && stop.peek != '\x00' then
        let folds := folded && newEnding == ['\n'] && !startsWide &&
          !(stop.peek == ' ' || stop.peek == '\t')
        let joint := if folds then (if newBreaks.isEmpty then [' '] else []) else newEnding
        let (text, lastEnding, lastBreaks, last) :=
          blockLines folded indent fuel newEnding newBreaks stop
        (breaks ++ line ++ joint ++ text, lastEnding, lastBreaks, last)
      else (breaks ++ line, newEnding, newBreaks, stop)
    else ([], ending, breaks, cursor)

/-- The block scalar at the cursor inside a block indented by `indent`, which is negative outside
all blocks, and the cursor behind it. -/
def takeBlock (cursor : Cursor) (folded : Bool) (indent : Int) :
    Except Failure (List Char × Cursor) := do
  let (chomping, increment, header) ← cursor.step.takeBlockMarks
  let body ← header.skipComment (.scanning "a block scalar")
  let least := max 1 (indent + 1).toNat
  let (indent, breaks, start) := match increment with
    | none =>
      let (breaks, widest, start) := blockStart (body.rest.length + 1) 0 body
      (max least widest, breaks, start)
    | some width =>
      let indent := least + width - 1
      let (breaks, start) := blockBreaks indent (body.rest.length + 1) body
      (indent, breaks, start)
  let (text, ending, breaks, stop) :=
    blockLines folded indent (start.rest.length + 1) [] breaks start
  let tail := match chomping with
    | .strip => []
    | .clip => ending
    | .keep => ending ++ breaks
  return (text ++ tail, stop)

end LlmTxt.Yaml.Cursor

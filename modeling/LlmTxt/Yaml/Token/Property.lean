/-
This file reads what stands before a node or a document: anchors and the aliases
that cite them, tags with their handles and escapes, and directives.
-/

import LlmTxt.Text.Number
import LlmTxt.Text.Utf8
import LlmTxt.Yaml.Token.Scalar

namespace LlmTxt.Yaml.Cursor

open Text

/-! ### Anchors and aliases -/

/-- The name behind an anchor or alias mark, and the cursor behind it. -/
def takeAnchorName (cursor : Cursor) : Except Failure (String × Cursor) :=
  let what := if cursor.peek == '*' then "an alias" else "an anchor"
  let context := some (Context.scanning what)
  let (name, stop) := cursor.step.takeWhile isWordCharacter
  let found := stop.peek
  let ends := isBlankOrEnd found || ['?', ':', ',', ']', '\x7d', '%', '@', '\x60'].contains found
  if name.isEmpty || !ends then
    stop.fail context (.expected "alphabetic or numeric character" found)
  else .ok (String.ofList name, stop)

/-! ### Tags -/

/-- The characters of a tag as it is written. -/
def isTagCharacter (character : Char) : Bool :=
  character.isAlphanum ||
    ['-', ';', '/', '?', ':', '@', '&', '=', '+', '$', ',', '_', '.', '!', '~', '*', '\'', '(',
      ')', '[', ']', '%'].contains character

/-- The bytes that a run of escapes names, and the cursor behind them. -/
def takeEscapedBytes (what : String) : (fuel : Nat) → Cursor → Except Failure (List UInt8 × Cursor)
  | 0, cursor => .ok ([], cursor)
  | fuel + 1, cursor =>
    if cursor.peek == '%' then
      let digits := cursor.step
      match digits.hexRun 2 with
      | .error found =>
        digits.fail (some (.scanning ("a " ++ what)))
          (.expected "URI escape sequence of 2 hexadecimal numbers" found)
      | .ok value => do
        let (bytes, stop) ← takeEscapedBytes what fuel (digits.advance 2)
        return (UInt8.ofNat value :: bytes, stop)
    else .ok ([], cursor)

/-- The characters that a run of escapes stands for, and the cursor behind it. -/
def takeTagEscapes (what : String) (cursor : Cursor) : Except Failure (List Char × Cursor) := do
  let (bytes, stop) ← takeEscapedBytes what (cursor.rest.length + 1) cursor
  match decodeUtf8 bytes with
  | .ok characters => return (characters, stop)
  | .error failure =>
    cursor.fail (some (.scanning ("a " ++ what))) (.badUriEscapes failure.message)

/-- The characters of a tag, with escapes resolved, and the cursor behind it. -/
def tagCharacters (what : String) : (fuel : Nat) → Cursor → Except Failure (List Char × Cursor)
  | 0, cursor => .ok ([], cursor)
  | fuel + 1, cursor =>
    let (run, stop) := cursor.takeWhile fun character =>
      isTagCharacter character && character != '%'
    if stop.peek == '%' then do
      let (escaped, next) ← stop.takeTagEscapes what
      let (more, last) ← tagCharacters what fuel next
      return (run ++ escaped ++ more, last)
    else .ok (run, stop)

/-- The text of a tag, which is not empty, and the cursor behind it. -/
def takeTagText (what : String) (cursor : Cursor) : Except Failure (List Char × Cursor) := do
  let (characters, stop) ← tagCharacters what (cursor.rest.length + 1) cursor
  if stop.mark.index = cursor.mark.index then
    stop.fail (some (.parsing ("a " ++ what))) (.expected "URI" stop.peek)
  else return (characters, stop)

/-- The handle of a tag with its exclamation marks, and the cursor behind it. -/
def takeTagHandle (what : String) (cursor : Cursor) : Except Failure (String × Cursor) :=
  let context := some (Context.scanning ("a " ++ what))
  if cursor.peek != '!' then cursor.fail context (.expected "'!'" cursor.peek)
  else if cursor.peekAt 1 == ' ' then .ok ("!", cursor.step)
  else
    let (name, stop) := cursor.step.takeWhile isWordCharacter
    if stop.peek != '!' then stop.fail context (.expected "'!'" stop.peek)
    else .ok (String.ofList ('!' :: name ++ ['!']), stop.step)

/-- Whether a second exclamation mark ends a handle in a tag. -/
def tagHasHandle (cursor : Cursor) : Bool :=
  ((cursor.rest.drop 1).takeWhile fun character => !isSpaceOrEnd character).contains '!'

/-- The tag at the cursor, and the cursor behind it. -/
def takeTag (cursor : Cursor) : Except Failure (TagText × Cursor) := do
  let (tag, stop) ←
    if cursor.peekAt 1 == '<' then do
      let (text, stop) ← (cursor.advance 2).takeTagText "tag"
      if stop.peek != '>' then
        stop.fail (some (.parsing "a tag")) (.expected "'>'" stop.peek)
      else pure (⟨none, String.ofList text⟩, stop.step)
    else if isBlankOrEnd (cursor.peekAt 1) then pure (⟨none, "!"⟩, cursor.step)
    else do
      let (handle, next) ←
        if cursor.tagHasHandle then cursor.takeTagHandle "tag" else pure ("!", cursor.step)
      let (text, stop) ← next.takeTagText "tag"
      pure ((⟨some handle, String.ofList text⟩ : TagText), stop)
  if isSpaceOrEnd stop.peek then return (tag, stop)
  else stop.fail (some (.scanning "a tag")) (.expected "' '" stop.peek)

/-! ### Directives -/

/-- What was being read when a directive is at fault. -/
def inDirective : Option Context :=
  some (.scanning "a directive")

/-- The number at the cursor, and the cursor behind it. -/
def takeVersionNumber (cursor : Cursor) : Except Failure (Nat × Cursor) :=
  let (digits, stop) := cursor.takeWhile Char.isDigit
  if digits.isEmpty then cursor.fail inDirective (.expected "a digit" cursor.peek)
  else if maxDigits < digits.length then .error (.tooManyDigits digits.length)
  else .ok (digits.foldl (fun value digit => value * 10 + (digit.toNat - 48)) 0, stop)

/-- The version that a directive declares, and the cursor behind it. -/
def takeVersion (cursor : Cursor) : Except Failure (Directive × Cursor) := do
  let (major, dot) ← cursor.skipSpaces.takeVersionNumber
  if dot.peek != '.' then dot.fail inDirective (.expected "a digit or '.'" dot.peek)
  else
    let (minor, stop) ← dot.step.takeVersionNumber
    if isSpaceOrEnd stop.peek then return (.version major minor, stop)
    else stop.fail inDirective (.expected "a digit or ' '" stop.peek)

/-- The tag handle that a directive declares with what it stands for, and the cursor behind it. -/
def takeHandleDeclaration (cursor : Cursor) : Except Failure (Directive × Cursor) := do
  let (handle, gap) ← cursor.skipSpaces.takeTagHandle "directive"
  if gap.peek != ' ' then gap.fail inDirective (.expected "' '" gap.peek)
  else
    let (text, stop) ← gap.skipSpaces.takeTagText "directive"
    if isSpaceOrEnd stop.peek then return (.tagHandle handle (String.ofList text), stop)
    else stop.fail inDirective (.expected "' '" stop.peek)

/-- The directive at the cursor, and the cursor behind its line. -/
def takeDirective (cursor : Cursor) : Except Failure (Directive × Cursor) := do
  let (name, stop) := cursor.step.takeWhile isWordCharacter
  if name.isEmpty || !isSpaceOrEnd stop.peek then
    stop.fail inDirective (.expected "alphabetic or numeric character" stop.peek)
  else
    let (directive, stop) ←
      if name = "YAML".toList then stop.takeVersion
      else if name = "TAG".toList then stop.takeHandleDeclaration
      else pure (Directive.reserved, stop.skipLine)
    let next ← stop.skipComment (.scanning "a directive")
    return (directive, next)

end LlmTxt.Yaml.Cursor

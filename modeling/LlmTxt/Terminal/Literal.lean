/-
This file reads values that are written out: numbers, texts in quotes, the words for true,
false and nothing, and tuples, lists, sets and tables of values. A text is first cut into
parts. The grammar of values says whether they are a value. If they are none, the reading of
the parts one by one finds what is wrong with their form; where nothing is, they are a value
that would have to be worked out, or a set or a table with something in it that may change.
Faults of brackets and quotes count before others. The names of characters are not checked.
-/

import LlmTxt.Terminal.Console
import LlmTxt.Text.Blank
import LlmTxt.Text.Number
import LlmTxt.Text.Quoted
import LlmTxt.Text.Word

namespace LlmTxt.Terminal

open Text

/-- What is wrong with written values. -/
inductive ValueFault where
  | neverClosed (bracket : Char)
  | unmatched (bracket : Char)
  | mismatched (closing opening : Char)
  | tooManyOpen
  | openText (threefold : Bool) (line : Nat)
  | strayBackslash
  | strayCharacter (character : Char)
  | holdsNull
  /-- A number in a base that has a name. -/
  | badNumber (base : String)
  | badDigit (digit : Char) (base : String)
  | tooManyDigits (count : Nat)
  | leadingZeros
  /-- An escape of a text that does not end, from one place to another. -/
  | cutEscape (form : String) (first last : Nat)
  | escapeOutOfRange (first last : Nat)
  | badNameEscape (first last : Nat)
  | badByteEscape (place : Nat)
  | beyondAscii
  | mixedTexts
  | missingComma
  | nameSet
  | badForm
  /-- Something that is no value, but could be worked out to one. -/
  | notWritten
  /-- Something of a type that may change where nothing may. -/
  | changeable (type : String)
  | notEncoded (failure : EncodingFailure)
deriving DecidableEq, Repr

namespace ValueFault

/-- Whether the form of values is at fault, rather than the values. -/
def isOfForm : ValueFault → Bool
  | notWritten | changeable _ | notEncoded _ => false
  | _ => true

/-- The wording of a fault of an escape. -/
def escapeText (first last : Nat) (what : String) : String :=
  "(unicode error) 'unicodeescape' codec can't decode bytes in position " ++ toString first ++
    "-" ++ toString last ++ ": " ++ what

/-- The wording of a fault. -/
def message : ValueFault → String
  | neverClosed bracket => "'" ++ toString bracket ++ "' was never closed"
  | unmatched bracket => "unmatched '" ++ toString bracket ++ "'"
  | mismatched closing opening =>
    "closing parenthesis '" ++ toString closing ++ "' does not match opening parenthesis '" ++
      toString opening ++ "'"
  | tooManyOpen => "too many nested parentheses"
  | openText threefold line =>
    "unterminated " ++ (if threefold then "triple-quoted " else "") ++
      "string literal (detected at line " ++ toString line ++ ")"
  | strayBackslash => "unexpected character after line continuation character"
  | strayCharacter character =>
    let place := "U+" ++ String.ofList ((hexAtLeast 4 character.toNat).map Char.toUpper)
    if isShown character then "invalid character '" ++ toString character ++ "' (" ++ place ++ ")"
    else "invalid non-printable character " ++ place
  | holdsNull => "source code string cannot contain null bytes"
  | badNumber base => "invalid " ++ base ++ " literal"
  | badDigit digit base => "invalid digit '" ++ toString digit ++ "' in " ++ base ++ " literal"
  | tooManyDigits count =>
    "Exceeds the limit (4300 digits) for integer string conversion: value has " ++
      toString count ++ " digits; use sys.set_int_max_str_digits() to increase the limit - " ++
      "Consider hexadecimal for huge integer literals to avoid decimal conversion limits."
  | leadingZeros =>
    "leading zeros in decimal integer literals are not permitted; " ++
      "use an 0o prefix for octal integers"
  | cutEscape form first last => escapeText first last ("truncated \\" ++ form ++ " escape")
  | escapeOutOfRange first last => escapeText first last "illegal Unicode character"
  | badNameEscape first last => escapeText first last "malformed \\N character escape"
  | badByteEscape place => "(value error) invalid \\x escape at position " ++ toString place
  | beyondAscii => "bytes can only contain ASCII literal characters"
  | mixedTexts => "cannot mix bytes and nonbytes literals"
  | missingComma => "invalid syntax. Perhaps you forgot a comma?"
  | nameSet => "invalid syntax. Maybe you meant '==' or ':=' instead of '='?"
  | badForm => "invalid syntax"
  | notWritten => "malformed node or string on line 1"
  | changeable type => "unhashable type: '" ++ type ++ "'"
  | notEncoded failure => failure.message

end ValueFault

/-! ### The parts of values -/

/-- A text in quotes. -/
structure QuotedText where
  isBytes : Bool
  /-- Whether values are put into the text. -/
  isWorkedOut : Bool
  fault? : Option ValueFault
deriving DecidableEq, Repr

/-- A part of some written values. -/
inductive ValuePart where
  | number (imaginary : Bool)
  /-- A word or a sign that is a value. -/
  | constant
  | text (quoted : QuotedText)
  | name (word : String)
  | sign
  | operator
  | setting
  | comma
  | colon
  | lineEnd
  | opening (bracket : Char)
  | closing (bracket : Char)
  /-- A character that never stands in values. -/
  | stray
deriving DecidableEq, Repr

namespace ValuePart

/-- Whether a part is a name. -/
def isName : ValuePart → Bool
  | name _ => true
  | _ => false

end ValuePart

/-- The parts of a text of values up to a fault in its brackets, quotes or numbers. -/
structure ValueParts where
  parts : List ValuePart
  fault? : Option ValueFault
deriving DecidableEq, Repr

namespace ValueParts

/-- A part before others. -/
def push (part : ValuePart) (rest : ValueParts) : ValueParts :=
  { rest with parts := part :: rest.parts }

/-- No parts but a fault. -/
def failed (fault : ValueFault) : ValueParts := ⟨[], some fault⟩

/-- The bracket that closes another. -/
def closes? : Char → Option Char
  | ')' => some '('
  | ']' => some '['
  | '\x7d' => some '\x7b'
  | _ => none

/-- Whether a character opens a bracket. -/
def opens (character : Char) : Bool :=
  character == '(' || character == '[' || character == '\x7b'

/-- How many brackets may be open at once. -/
def maxOpen : Nat := 200

/-! ### Texts -/

/-- Whether a character is a quote. -/
def isQuote (character : Char) : Bool :=
  character == '\'' || character == '"'

/-- What stands in quotes and what follows it, if the text ends; a backslash takes the character
behind it. `read` is what has been read, last character first. -/
def splitText? (ending : List Char) (threefold : Bool) (read : List Char) :
    List Char → Option (List Char × List Char)
  | [] => none
  | '\\' :: taken :: rest => splitText? ending threefold (taken :: '\\' :: read) rest
  | character :: rest =>
    match after? ending (character :: rest) with
    | some left => some (read.reverse, left)
    | none =>
      if character = '\n' && !threefold then none
      else splitText? ending threefold (character :: read) rest

/-- How many hexadecimal digits an escape of a text takes, and how it is written. -/
def escapeForm? : Char → Option (Nat × String)
  | 'x' => some (2, "xXX")
  | 'u' => some (4, "uXXXX")
  | 'U' => some (8, "UXXXXXXXX")
  | _ => none

/-- The hexadecimal digits at the beginning of a text, some at most. -/
def hexRun (width : Nat) (text : List Char) : List Char :=
  (text.take width).takeWhile fun character =>
    character.toNat < 128 && (digitValue? character).isSome

/-- The fault in the escapes of a text. `place` counts the places before it, ten for each character
beyond ASCII. -/
def escapeFault? (place : Nat) : List Char → Option ValueFault
  | '\\' :: 'N' :: rest =>
    match rest with
    | '\x7b' :: more =>
      let name := more.takeWhile (· != '\x7d')
      if name.isEmpty || name.length = more.length then
        some (.badNameEscape place (place + 2 + name.length))
      else escapeFault? (place + 3) more
    | _ => some (.badNameEscape place (place + 1))
  | '\\' :: letter :: rest =>
    match escapeForm? letter with
    | none => escapeFault? (place + 2) rest
    | some (width, form) =>
      let digits := hexRun width rest
      if digits.length < width then some (.cutEscape form place (place + 1 + digits.length))
      else if (digitsValue? 16 digits).any (0x10FFFF < ·) then
        some (.escapeOutOfRange place (place + 1 + width))
      else escapeFault? (place + 2) rest
  | character :: rest => escapeFault? (place + if character.toNat < 128 then 1 else 10) rest
  | [] => none

/-- The fault in the escapes of bytes. -/
def byteEscapeFault? (place : Nat) : List Char → Option ValueFault
  | '\\' :: 'x' :: rest =>
    if (hexRun 2 rest).length < 2 then some (.badByteEscape place)
    else byteEscapeFault? (place + 2) rest
  | '\\' :: _ :: rest => byteEscapeFault? (place + 2) rest
  | _ :: rest => byteEscapeFault? (place + 1) rest
  | [] => none

/-- A text in quotes behind some letters. -/
def quotedText (marks : String) (content : List Char) : QuotedText :=
  let isBytes := marks.contains 'b'
  let isRaw := marks.contains 'r'
  ⟨isBytes, marks.contains 'f',
    if isBytes && content.any (128 ≤ ·.toNat) then some .beyondAscii
    else if isRaw then none
    else if isBytes then byteEscapeFault? 0 content
    else escapeFault? 0 content⟩

/-- The text that begins with a quote behind some letters, and what follows it. -/
def takeText (marks : String) (quote : Char) (rest : List Char) :
    Except ValueFault (ValuePart × List Char) :=
  let threefold := [quote, quote].isPrefixOf rest
  let ending := List.replicate (if threefold then 3 else 1) quote
  match splitText? ending threefold [] (if threefold then rest.drop 2 else rest) with
  | some (content, left) => .ok (.text (quotedText marks content), left)
  | none => .error (.openText threefold (1 + if threefold then rest.count '\n' else 0))

/-- The words that may stand before the quote of a text. -/
def textMarks : List String :=
  ["b", "br", "f", "fr", "r", "rb", "rf", "u"]

/-! ### Words and numbers -/

/-- The words that are values. -/
def valueWords : List String :=
  ["True", "False", "None"]

/-- The part that a word is on its own. -/
def ofWord (word : String) : ValuePart :=
  if valueWords.contains word then .constant else .name word

/-- What follows digits, with an underscore between two of them at most. -/
def afterDigits? : List Char → Option (List Char)
  | '_' :: next :: rest => if next.isDigit then afterDigits? rest else none
  | ['_'] => none
  | first :: rest => if first.isDigit then afterDigits? rest else some (first :: rest)
  | [] => some []

/-- What follows digits with a power of ten. -/
def afterPower (text : List Char) : List Char :=
  match text with
  | mark :: next :: rest =>
    if mark != 'e' && mark != 'E' then text
    else if next.isDigit then rest.dropWhile Char.isDigit
    else
      match next, rest with
      | '-', digit :: more | '+', digit :: more =>
        if digit.isDigit then more.dropWhile Char.isDigit else text
      | _, _ => text
  | _ => text

/-- A number in some base, if no letter, digit or underscore of ASCII follows it at once. -/
def ended (base : String) (imaginary : Bool) (left : List Char) :
    Except ValueFault (ValuePart × List Char) :=
  if left.head?.any fun character => character.toNat < 128 && isWord character then
    .error (.badNumber base)
  else .ok (.number imaginary, left)

/-- The digits of a base that has a letter of its own, and what follows them. -/
def takeBaseDigits (base : Nat) (name : String) (text : List Char) :
    Except ValueFault (ValuePart × List Char) :=
  let isPart := fun character => character == '_' || (digitValue? character).any (· < base)
  let left := text.dropWhile isPart
  match left.head? with
  | some next =>
    if next.isDigit then .error (.badDigit next name)
    else if text.head?.any isPart then ended name false left
    else .error (.badNumber name)
  | none => if text.isEmpty then .error (.badNumber name) else ended name false left

/-- The number in base ten at the beginning of a text, and what follows it. A whole number has no
zeros before its first digit. -/
def takeDecimal (text : List Char) : Except ValueFault (ValuePart × List Char) :=
  match afterDigits? text with
  | none => .error (.badNumber "decimal")
  | some whole =>
    let fraction? := match whole with
      | '.' :: rest => if rest.head?.any Char.isDigit then afterDigits? rest else some rest
      | _ => some whole
    match fraction? with
    | none => .error (.badNumber "decimal")
    | some fraction =>
      let power := afterPower fraction
      let (imaginary, left) := match power with
        | 'j' :: rest | 'J' :: rest => (true, rest)
        | rest => (false, rest)
      let digits := (text.take (text.length - whole.length)).filter (· != '_')
      if left.length = whole.length && digits.head? = some '0' && digits.any (· != '0') then
        .error .leadingZeros
      else if left.length = whole.length && maxDigits < digits.length then
        .error (.tooManyDigits digits.length)
      else ended (if imaginary then "imaginary" else "decimal") imaginary left

/-- The number at the beginning of a text, and what follows it. -/
def takeNumber (text : List Char) : Except ValueFault (ValuePart × List Char) :=
  match text with
  | '0' :: 'x' :: rest | '0' :: 'X' :: rest => takeBaseDigits 16 "hexadecimal" rest
  | '0' :: 'o' :: rest | '0' :: 'O' :: rest => takeBaseDigits 8 "octal" rest
  | '0' :: 'b' :: rest | '0' :: 'B' :: rest => takeBaseDigits 2 "binary" rest
  | _ => takeDecimal text

/-! ### All parts -/

/-- White space between values. -/
def isSpace (character : Char) : Bool :=
  [' ', '\t', '\r', '\x0c'].contains character

/-- The parts of a text of values, where some brackets are open, the last one first. Each step takes
a character at least. -/
def ofText (opened : List Char) : (fuel : Nat) → List Char → ValueParts
  | 0, _ => ⟨[], none⟩
  | fuel + 1, content =>
    let behind := fun (taken : Except ValueFault (ValuePart × List Char)) =>
      match taken with
      | .ok (part, rest) => push part (ofText opened fuel rest)
      | .error fault => failed fault
    match content with
    | [] => ⟨[], opened.head?.map .neverClosed⟩
    | '#' :: rest => ofText opened fuel (rest.dropWhile (· != '\n'))
    | ',' :: rest => push .comma (ofText opened fuel rest)
    | ':' :: rest => push .colon (ofText opened fuel rest)
    | '\n' :: rest =>
      if opened.isEmpty then push .lineEnd (ofText opened fuel rest) else ofText opened fuel rest
    | '\\' :: '\n' :: rest => ofText opened fuel rest
    | '\\' :: _ => failed .strayBackslash
    | '.' :: '.' :: '.' :: rest => push .constant (ofText opened fuel rest)
    | '=' :: '=' :: rest | '!' :: '=' :: rest => push .operator (ofText opened fuel rest)
    | '=' :: rest => push .setting (ofText opened fuel rest)
    | character :: rest =>
      if isSpace character then ofText opened fuel rest
      else if isQuote character then behind (takeText "" character rest)
      else if opens character then
        if maxOpen ≤ opened.length then failed .tooManyOpen
        else push (.opening character) (ofText (character :: opened) fuel rest)
      else if let some bracket := closes? character then
        match opened with
        | [] => failed (.unmatched character)
        | last :: others =>
          if last = bracket then push (.closing character) (ofText others fuel rest)
          else failed (.mismatched character last)
      else if character.isDigit || (character == '.' && rest.head?.any Char.isDigit) then
        behind (takeNumber content)
      else if isWord character then
        let word := String.ofList (content.takeWhile isWord)
        match content.dropWhile isWord with
        | quote :: more =>
          if isQuote quote && textMarks.contains word.toLower then
            behind (takeText word.toLower quote more)
          else push (ofWord word) (ofText opened fuel (quote :: more))
        | [] => push (ofWord word) (ofText opened fuel [])
      else if character.toNat < 32 || 127 ≤ character.toNat then
        failed (.strayCharacter character)
      else if ['$', '?', '!', ';', '\x60'].contains character then
        push .stray (ofText opened fuel rest)
      else if character == '+' || character == '-' then push .sign (ofText opened fuel rest)
      else push .operator (ofText opened fuel rest)

end ValueParts

/-! ### Values -/

/-- What the grammar finds of a value. -/
inductive WrittenValue where
  | number (signed imaginary : Bool)
  /-- No number; with the type of something in it that may change, if there is such a thing. -/
  | other (changeable : Option String)
deriving DecidableEq, Repr

namespace WrittenValue

/-- The type of something in a value that may change. -/
def changeable? : WrittenValue → Option String
  | number _ _ => none
  | other changeable => changeable

/-- A value that nothing changes, where such a one is needed. -/
def fixed (value : WrittenValue) : Except ValueFault Unit :=
  match value.changeable? with
  | none => .ok ()
  | some type => .error (.changeable type)

/-- A number with a sign. -/
def withSign : WrittenValue → Except ValueFault WrittenValue
  | number false imaginary => .ok (number true imaginary)
  | _ => .error .notWritten

/-- A real number, with or without a sign, and an imaginary one without. -/
def sum : WrittenValue → WrittenValue → Except ValueFault WrittenValue
  | number _ false, number false true => .ok (other none)
  | _, _ => .error .notWritten

/-- The value of texts side by side. -/
def ofTexts (texts : List QuotedText) : Except ValueFault WrittenValue :=
  match texts.findSome? QuotedText.fault? with
  | some fault => .error fault
  | none =>
    if texts.any (·.isBytes) && texts.any (!·.isBytes) then .error .mixedTexts
    else if texts.any (·.isWorkedOut) then .error .notWritten
    else .ok (other none)

/-- The texts at the beginning of some parts, and what follows them. -/
def takeTexts : List ValuePart → List QuotedText × List ValuePart
  | .text quoted :: rest =>
    let (others, left) := takeTexts rest
    (quoted :: others, left)
  | rest => ([], rest)

mutual

/-- The value at the beginning of some parts, and what follows it. -/
def take : (fuel : Nat) → List ValuePart → Except ValueFault (WrittenValue × List ValuePart)
  | 0, _ => .error .notWritten
  | fuel + 1, parts => do
    let (first, left) ← takeOperand fuel parts
    match left with
    | .sign :: rest =>
      let (second, behind) ← takeOperand fuel rest
      return (← first.sum second, behind)
    | _ => return (first, left)

/-- The value without a sum at the beginning of some parts, and what follows it. -/
def takeOperand : (fuel : Nat) → List ValuePart → Except ValueFault (WrittenValue × List ValuePart)
  | 0, _ => .error .notWritten
  | fuel + 1, parts =>
    match parts with
    | .number imaginary :: rest => .ok (number false imaginary, rest)
    | .constant :: rest => .ok (other none, rest)
    | .text quoted :: rest => do
      let (texts, left) := takeTexts rest
      return (← ofTexts (quoted :: texts), left)
    | .sign :: rest => do
      let (operand, left) ← takeOperand fuel rest
      return (← operand.withSign, left)
    | .name "set" :: .opening '(' :: .closing _ :: rest => .ok (other (some "set"), rest)
    | .opening '(' :: .closing _ :: rest => .ok (other none, rest)
    | .opening '(' :: rest => do
      let (first, left) ← take fuel rest
      match left with
      | .comma :: more =>
        let (others, behind) ← takeItems true fuel more
        return (other ((first :: others).findSome? changeable?), behind)
      | .closing _ :: behind => return (first, behind)
      | _ => throw .notWritten
    | .opening '[' :: rest => do
      let (_, behind) ← takeItems true fuel rest
      return (other (some "list"), behind)
    | .opening '\x7b' :: .closing _ :: rest => .ok (other (some "dict"), rest)
    | .opening '\x7b' :: rest => do
      match (← take fuel rest).2 with
      | .colon :: _ => return (other (some "dict"), ← takePairs fuel rest)
      | _ =>
        let (_, behind) ← takeItems false fuel rest
        return (other (some "set"), behind)
    | _ => .error .notWritten

/-- The values up to a closing bracket, with commas between them, and what follows the bracket. -/
def takeItems (mayChange : Bool) : (fuel : Nat) → List ValuePart →
    Except ValueFault (List WrittenValue × List ValuePart)
  | 0, _ => .error .notWritten
  | _, .closing _ :: rest => .ok ([], rest)
  | fuel + 1, parts => do
    let (first, left) ← take fuel parts
    if !mayChange then first.fixed
    match left with
    | .comma :: more =>
      let (others, behind) ← takeItems mayChange fuel more
      return (first :: others, behind)
    | .closing _ :: behind => return ([first], behind)
    | _ => throw .notWritten

/-- What follows the pairs of a table and the bracket that closes it. -/
def takePairs : (fuel : Nat) → List ValuePart → Except ValueFault (List ValuePart)
  | 0, _ => .error .notWritten
  | _, .closing _ :: rest => .ok rest
  | fuel + 1, parts => do
    let (key, left) ← take fuel parts
    match left with
    | .colon :: more =>
      let (_, behind) ← take fuel more
      key.fixed
      match behind with
      | .comma :: others => takePairs fuel others
      | .closing _ :: rest => return rest
      | _ => throw .notWritten
    | _ => throw .notWritten

end

/-- Reads values with commas between them to their end. -/
def readAll : (fuel : Nat) → List ValuePart → Except ValueFault Unit
  | 0, _ => .error .notWritten
  | fuel + 1, parts => do
    match (← take fuel parts).2 with
    | [] | [.comma] => return ()
    | .comma :: rest => readAll fuel rest
    | _ => throw .notWritten

/-- Reads parts as one value, or as some with commas between them. Each value takes a part at least,
and three steps at most for a part of its own. -/
def read (parts : List ValuePart) : Except ValueFault Unit :=
  let isLineEnd := fun part : ValuePart => part == .lineEnd
  let bare := ((parts.dropWhile isLineEnd).reverse.dropWhile isLineEnd).reverse
  readAll (3 * bare.length + 3) bare

end WrittenValue

/-! ### Faults of the form -/

/-- Where the reading of parts one by one stands: the brackets that are open, and the part before. -/
structure ValueReading where
  opened : List Char
  last : Option ValuePart
deriving DecidableEq, Repr

namespace ValueReading

/-- Nothing yet. -/
def start : ValueReading := ⟨[], none⟩

/-- Whether a value has just ended. -/
def isBehindValue (reading : ValueReading) : Bool :=
  match reading.last with
  | some (.number _) | some .constant | some (.text _) | some (.name _) | some (.closing _) => true
  | _ => false

/-- A reading with another part. -/
def push (reading : ValueReading) (part : ValuePart) : ValueReading :=
  { reading with last := some part }

/-- The fault of two values side by side. -/
def sideBySide (reading : ValueReading) : ValueFault :=
  if reading.opened.isEmpty then .badForm else .missingComma

/-- Reads a part. -/
def step (reading : ValueReading) (part : ValuePart) : Except ValueFault ValueReading :=
  let behind := reading.isBehindValue
  match part with
  | .text quoted =>
    match quoted.fault? with
    | some fault => .error fault
    | none =>
      match reading.last with
      | some (.text other) =>
        if quoted.isBytes = other.isBytes then .ok (reading.push part) else .error .mixedTexts
      | some (.name _) => .error .badForm
      | _ => if behind then .error reading.sideBySide else .ok (reading.push part)
  | .number _ | .constant | .name _ =>
    if behind then .error reading.sideBySide else .ok (reading.push part)
  | .sign => .ok (reading.push part)
  | .operator => if behind then .ok (reading.push part) else .error .badForm
  | .setting =>
    .error (if reading.last.any ValuePart.isName && !reading.opened.isEmpty then .nameSet
      else .badForm)
  | .comma => if behind then .ok (reading.push part) else .error .badForm
  | .colon =>
    if behind && reading.opened.head? == some '\x7b' then .ok (reading.push part)
    else .error .badForm
  | .opening bracket =>
    if behind && bracket == '\x7b' then .error reading.sideBySide
    else .ok { reading.push part with opened := bracket :: reading.opened }
  | .closing _ =>
    let closed := { reading.push part with opened := reading.opened.tail }
    match reading.last with
    | some .comma | some (.opening _) => .ok closed
    | _ => if behind then .ok closed else .error .badForm
  | .lineEnd | .stray => .error .badForm

/-- Whether values may end here. -/
def mayEnd (reading : ValueReading) : Bool :=
  reading.isBehindValue || reading.last == some .comma

/-- Whether parts go on to their end as one value or the beginning of one. -/
def goesOn (reading : ValueReading) : List ValuePart → Bool
  | [] => true
  | part :: rest =>
    let isEnd := match part with
      | .comma | .closing _ => reading.opened.isEmpty
      | _ => false
    match reading.step part with
    | .ok next => !isEnd && goesOn next rest
    | .error _ => false

/-- Whether a part begins a value right behind another value. A text behind a name is none. -/
def isBeside (reading : ValueReading) (part : ValuePart) : Bool :=
  reading.isBehindValue &&
    match part with
    | .text _ => !reading.last.any ValuePart.isName
    | .number _ | .constant | .name _ | .opening _ => true
    | _ => false

/-- The fault of some parts. A fault that broke them off counts before one among them if it is of
brackets that do not match, of a text or of a number, or if the value behind the one among them goes
on to it. -/
def fault? (broken : Option ValueFault) (reading : ValueReading) :
    List ValuePart → Option ValueFault
  | [] => broken.or (if reading.mayEnd then none else some .badForm)
  | part :: rest =>
    match reading.step part with
    | .ok next => fault? broken next rest
    | .error fault =>
      match broken with
      | none => some fault
      | some (.neverClosed _) | some .strayBackslash =>
        if (fault == .nameSet && start.goesOn rest) ||
            (reading.isBeside part && start.goesOn (part :: rest)) then broken
        else some fault
      | some _ => broken

end ValueReading

/-- The fault of a text of written values. -/
def valuesFault? (text : List Char) : Option ValueFault :=
  match encodingFailure? isStandIn text with
  | some failure => some (.notEncoded failure)
  | none =>
    if text.contains '\x00' then some .holdsNull
    else
      let found := ValueParts.ofText [] (text.length + 1) text
      match found.fault?, WrittenValue.read found.parts with
      | none, .ok () => none
      | broken, values =>
        (ValueReading.start.fault? broken found.parts).or <|
          match values with
          | .error fault => some fault
          | .ok () => broken

/-- Why written values are refused, if they are. -/
def valuesRefusal? (text : List Char) : Option ValueRefusal :=
  (valuesFault? text).map fun fault => ⟨fault.isOfForm, fault.message⟩

/-- A console that is so wide that next to nothing is broken on it. It looks at every colour, takes
every stand-in for its surrogate, and shows no details. -/
def Console.wide : Console :=
  ⟨2000, valuesRefusal?, fun _ _ => false, fun _ => false, fun _ => ""⟩

end LlmTxt.Terminal

/-
This file describes the console that a check prints on: how many places a line has, which written
values a tag may hold, where it does not look at colours, which characters mean surrogates on it,
and what stands on it behind the wording of a failure. It says as well what keeps a text from being
printed.
-/

import LlmTxt.Text.Quoted

namespace LlmTxt.Terminal

open Text

/-- Why written values are refused. -/
structure ValueRefusal where
  /-- Whether their form is at fault, rather than the values. -/
  ofForm : Bool
  message : String
deriving DecidableEq, Repr

/-- A console. It shows no colours. -/
structure Console where
  /-- How many places a line has. -/
  width : Nat
  /-- Why the console refuses written values, if it does. -/
  refusal? : List Char → Option ValueRefusal
  /-- Whether the colours in a text with markup are not looked at, where it is laid into lines of some
  width: they may enclose nothing that is left there. -/
  overlooks : List Char → Nat → Bool
  /-- Whether a stand-in means itself, the character of private use, and no surrogate. -/
  meansItself : Char → Bool
  /-- The details of a failure, behind its wording: where a text is not YAML, or which value of a
  setting is none. -/
  details : String → String

/-! ### What is not printed -/

/-- Something that is said of a handler and cannot be read. -/
structure HandlerFault where
  /-- What is said, as it is written. -/
  said : String
  /-- The values in it. -/
  values : String
  refusal : ValueRefusal
deriving DecidableEq, Repr

/-- The wording of a fault. -/
def HandlerFault.message (fault : HandlerFault) : String :=
  let told := quotedString fault.said ++ "; " ++ fault.refusal.message
  if fault.refusal.ofForm then "error parsing " ++ quotedString fault.values ++ " in " ++ told
  else "error parsing " ++ told

/-- Why a text is not printed: its markup is broken, or it cannot be encoded. -/
inductive PrintFailure where
  /-- A tag ends what no tag of its name began. -/
  | unopened (tag : String) (place : Nat)
  | nothingOpen (place : Nat)
  | handler (fault : HandlerFault)
  /-- One of the three numbers of a colour is left out. -/
  | emptyNumber
  /-- One of the three numbers of a colour has too many digits. -/
  | longNumber (digits : Nat)
  | notEncoded (failure : EncodingFailure)
deriving DecidableEq, Repr

/-- The wording of a failure. -/
def PrintFailure.message : PrintFailure → String
  | unopened tag place =>
    "closing tag '" ++ tag ++ "' at position " ++ toString place ++ " doesn't match any open tag"
  | nothingOpen place =>
    "closing tag '[/]' at position " ++ toString place ++ " has nothing to close"
  | handler fault => fault.message
  | emptyNumber => "invalid literal for int() with base 10: ''"
  | longNumber digits =>
    "Exceeds the limit (4300 digits) for integer string conversion: value has " ++
      toString digits ++ " digits; use sys.set_int_max_str_digits() to increase the limit"
  | notEncoded failure =>
    failure.message ++
      "\n*** You may need to add PYTHONIOENCODING=utf-8 to your environment ***"

/-- Something to print, if nothing keeps it from being printed. -/
abbrev Printout := Except PrintFailure (List Char)

/-- Whether a character means a surrogate on a console. -/
def Console.meansSurrogate (console : Console) (character : Char) : Bool :=
  isStandIn character && !console.meansItself character

/-- A text as a console writes it, if it can be encoded. A console without places writes nothing. -/
def Console.written (console : Console) (text : List Char) : Printout :=
  if console.width = 0 then .ok []
  else
    match encodingFailure? console.meansSurrogate text with
    | some failure => .error (.notEncoded failure)
    | none => .ok text

end LlmTxt.Terminal

/-
This file holds the tokens of YAML, each with the mark at which it begins. Besides
the marks that stand in the text there are tokens for what indentation means:
the beginning of a block collection and its end.
-/

import LlmTxt.Yaml.Cursor

namespace LlmTxt.Yaml

/-- A directive. Those that YAML reserves mean nothing. -/
inductive Directive where
  | version (major minor : Nat)
  | tagHandle (handle expansion : String)
  | reserved
deriving DecidableEq, Repr

/-- A tag as it is written: without a handle its text is the whole tag. -/
structure TagText where
  handle : Option String
  text : String
deriving DecidableEq, Repr

/-- What a token is. -/
inductive TokenKind where
  | streamStart
  | streamEnd
  | directive (content : Directive)
  | documentStart
  | documentEnd
  | blockSequenceStart
  | blockMappingStart
  | blockEnd
  | flowSequenceStart
  | flowMappingStart
  | flowSequenceEnd
  | flowMappingEnd
  | key
  | value
  | blockItem
  | flowItem
  | aliasOf (name : String)
  | anchor (name : String)
  | tag (content : TagText)
  | scalar (text : String) (plain : Bool)
deriving DecidableEq, Repr

/-- The name by which messages cite a token. -/
def TokenKind.name : TokenKind → String
  | streamStart => "<stream start>"
  | streamEnd => "<stream end>"
  | directive _ => "<directive>"
  | documentStart => "<document start>"
  | documentEnd => "<document end>"
  | blockSequenceStart => "<block sequence start>"
  | blockMappingStart => "<block mapping start>"
  | blockEnd => "<block end>"
  | flowSequenceStart => "["
  | flowMappingStart => "\x7b"
  | flowSequenceEnd => "]"
  | flowMappingEnd => "\x7d"
  | key => "?"
  | value => ":"
  | blockItem => "-"
  | flowItem => ","
  | aliasOf _ => "<alias>"
  | anchor _ => "<anchor>"
  | tag _ => "<tag>"
  | scalar _ _ => "<scalar>"

/-- A token and the place at which it begins. -/
structure Token where
  kind : TokenKind
  mark : Mark
deriving DecidableEq, Repr

end LlmTxt.Yaml

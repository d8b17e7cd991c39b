/-
This file reads the arguments of a command line. The first argument names the command, and
options and paths may follow in any order. An option has a long name behind two dashes, and
some have a letter behind one. Its value is the argument behind it, or stands behind an
equals sign after the long name, or behind the letter. Letters of options without a value
may be written together. Two dashes alone end the options, and one dash alone is a path. If
an option is given twice the later counts, but names are collected.
-/

import LlmTxt.Path
import LlmTxt.Text.Number

namespace LlmTxt

open Text

/-! ### Options -/

/-- The options of a check. -/
inductive CheckOption where
  | language
  | allow
  | strictOrder
  | anyOrder
  | settings
  | workers
  | format
  | verbose
deriving DecidableEq, Repr

namespace CheckOption

/-- The options of a check, in order. -/
def all : List CheckOption :=
  [language, allow, strictOrder, anyOrder, settings, workers, format, verbose]

/-- The long name of an option. -/
def long : CheckOption → String
  | language => "--language"
  | allow => "--allow"
  | strictOrder => "--strict-order"
  | anyOrder => "--no-strict-order"
  | settings => "--config"
  | workers => "--workers"
  | format => "--format"
  | verbose => "--verbose"

/-- The letter of an option. -/
def letter? : CheckOption → Option Char
  | language => some 'L'
  | allow => some 'a'
  | settings => some 'c'
  | workers => some 'w'
  | format => some 'f'
  | verbose => some 'V'
  | strictOrder | anyOrder => none

/-- Whether an option has a value. -/
def takesValue : CheckOption → Bool
  | strictOrder | anyOrder | verbose => false
  | _ => true

end CheckOption

/-- Why arguments are refused. -/
inductive UsageError where
  | missingCommand
  | unknownCommand (name : String)
  | unknownOption (name : String)
  | missingValue (name : String)
  | unwantedValue (name : String)
  | missingPaths
  | noNumber (text : String)
  | unknownFormat (name : String)
  | nullCharacter
  | extraArguments (arguments : List String)
deriving DecidableEq, Repr

/-- The wording of a refusal. -/
def UsageError.message : UsageError → String
  | missingCommand => "Missing command."
  | unknownCommand name => "No such command '" ++ name ++ "'."
  | unknownOption name => "No such option: " ++ name
  | missingValue name => "Option '" ++ name ++ "' requires an argument."
  | unwantedValue name => "Option '" ++ name ++ "' does not take a value."
  | missingPaths => "Missing argument 'PATHS...'."
  | noNumber text => "'" ++ text ++ "' is not a valid integer."
  | unknownFormat name => "'" ++ name ++ "' is not one of 'text', 'json'."
  | nullCharacter => "A path holds a null character."
  | extraArguments arguments =>
    "Got unexpected extra arguments (" ++ " ".intercalate arguments ++ ")"

/-! ### Arguments -/

/-- An option that is given, with its value if it has one. -/
structure GivenOption where
  option : CheckOption
  value : String
deriving DecidableEq, Repr

/-- What one argument gives: options, and perhaps an option whose value is the next argument. -/
structure OptionArgument where
  given : List GivenOption
  open? : Option CheckOption
deriving DecidableEq, Repr

namespace OptionArgument

/-- What the letters behind a dash give. -/
def ofLetters (known : List CheckOption) : List Char → Except UsageError OptionArgument
  | [] => .ok ⟨[], none⟩
  | letter :: rest =>
    match known.find? fun option => option.letter? == some letter with
    | none => .error (.unknownOption (String.ofList ['-', letter]))
    | some option =>
      if !option.takesValue then
        (ofLetters known rest).map fun found => { found with given := ⟨option, ""⟩ :: found.given }
      else if rest.isEmpty then .ok ⟨[], some option⟩
      else .ok ⟨[⟨option, String.ofList rest⟩], none⟩

/-- The name and the value of an argument with an equals sign. -/
def cutValue (argument : List Char) : List Char × Option (List Char) :=
  let name := argument.takeWhile (· != '=')
  match argument.drop name.length with
  | [] => (name, none)
  | _ :: value => (name, some value)

/-- What an argument gives that begins with a dash. -/
def ofText (known : List CheckOption) (argument : String) : Except UsageError OptionArgument :=
  let (name, value) := cutValue argument.toList
  match known.find? fun option => option.long.toList == name with
  | some option =>
    match value, option.takesValue with
    | none, true => .ok ⟨[], some option⟩
    | none, false => .ok ⟨[⟨option, ""⟩], none⟩
    | some value, true => .ok ⟨[⟨option, String.ofList value⟩], none⟩
    | some _, false => .error (.unwantedValue option.long)
  | none =>
    if "--".toList.isPrefixOf name then .error (.unknownOption (String.ofList name))
    else ofLetters known (argument.toList.drop 1)

end OptionArgument

/-- Whether an argument gives options. -/
def givesOptions (argument : String) : Bool :=
  match argument.toList with
  | '-' :: _ :: _ => true
  | _ => false

/-- Arguments as they are understood: the options in order, and everything else. -/
structure ReadArguments where
  given : List GivenOption
  others : List String
deriving DecidableEq, Repr

namespace ReadArguments

/-- Reads arguments behind a command with the options that it knows. -/
def ofList (known : List CheckOption) : List String → Except UsageError ReadArguments
  | [] => .ok ⟨[], []⟩
  | argument :: rest =>
    if argument == "--" then .ok ⟨[], rest⟩
    else if !givesOptions argument then
      (ofList known rest).map fun read => { read with others := argument :: read.others }
    else
      match OptionArgument.ofText known argument with
      | .error refusal => .error refusal
      | .ok ⟨given, none⟩ =>
        (ofList known rest).map fun read => { read with given := given ++ read.given }
      | .ok ⟨given, some option⟩ =>
        match rest with
        | [] => .error (.missingValue option.long)
        | value :: more =>
          (ofList known more).map fun read =>
            { read with given := given ++ ⟨option, value⟩ :: read.given }

/-- The values of an option, in order. -/
def values (read : ReadArguments) (option : CheckOption) : List String :=
  (read.given.filter (·.option == option)).map (·.value)

/-- The last value of an option. -/
def last? (read : ReadArguments) (option : CheckOption) : Option String :=
  (read.values option).getLast?

/-- Whether the order is to be strict, if that is said. -/
def strictOrder? (read : ReadArguments) : Option Bool :=
  (read.given.filterMap fun given =>
    match given.option with
    | .strictOrder => some true
    | .anyOrder => some false
    | _ => none).getLast?

end ReadArguments

/-! ### Commands -/

/-- The form in which reports are printed. -/
inductive OutputFormat where
  | text
  | json
deriving DecidableEq, Repr

/-- What to check, and how. -/
structure CheckRequest where
  paths : List Path
  languages : List String
  allowed : List String
  strictOrder : Option Bool
  settings : Option Path
  workers : Int
  format : OutputFormat
deriving DecidableEq, Repr

/-- What the program is asked to do. -/
inductive Command where
  | check (request : CheckRequest)
  | codes
  | version
deriving DecidableEq, Repr

namespace CheckRequest

/-- How many workers share the work unless an option says so. -/
def defaultWorkers : Int := 4

/-- The number of workers that an option gives. -/
def workersOf : Option String → Except UsageError Int
  | none => .ok defaultWorkers
  | some text => (integer? text.toList).elim (.error (.noNumber text)) .ok

/-- The form that an option gives. -/
def formatOf : Option String → Except UsageError OutputFormat
  | none | some "text" => .ok .text
  | some "json" => .ok .json
  | some other => .error (.unknownFormat other)

/-- The path that an argument names. -/
def pathOf (argument : String) : Except UsageError Path :=
  if argument.toList.contains '\x00' then .error .nullCharacter else .ok (Path.ofText argument)

/-- The check that arguments ask for. -/
def ofArguments (arguments : List String) : Except UsageError CheckRequest := do
  let read ← ReadArguments.ofList CheckOption.all arguments
  if read.others.isEmpty then throw .missingPaths
  return {
    paths := ← read.others.mapM pathOf
    languages := read.values .language
    allowed := read.values .allow
    strictOrder := read.strictOrder?
    settings := ← (read.last? .settings).mapM pathOf
    workers := ← workersOf (read.last? .workers)
    format := ← formatOf (read.last? .format) }

end CheckRequest

namespace Command

/-- A command that takes no arguments. -/
def alone (command : Command) (arguments : List String) : Except UsageError Command := do
  let read ← ReadArguments.ofList [] arguments
  if read.others.isEmpty then return command else throw (.extraArguments read.others)

/-- The command of a name. -/
def ofName (name : String) (arguments : List String) : Except UsageError Command :=
  match name with
  | "check" => (CheckRequest.ofArguments arguments).map check
  | "codes" => codes.alone arguments
  | "version" => version.alone arguments
  | other => .error (.unknownCommand other)

/-- The command that arguments spell. No option stands before its name. -/
def ofArguments : List String → Except UsageError Command
  | [] | ["--"] => .error .missingCommand
  | "--" :: name :: rest => ofName name rest
  | name :: rest =>
    if givesOptions name then .error (.unknownOption name) else ofName name rest

end Command

end LlmTxt

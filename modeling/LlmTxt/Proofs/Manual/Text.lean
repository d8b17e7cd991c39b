/-
This file describes manuals and how they are written. A manual is what a document is meant to say
about a package: a frontmatter, two lines of prose, the modules with their classes, functions and
exceptions, and the names that the example takes out of the modules. Written as a document, its
modules stand there twice: as bullets of the Index, where the symbols of a module are listed by
kind, and as module sections, where they have headings of their own and methods stand behind the
class they belong to. A name with its signature is read back from the text that it makes, which
begins with a word character, ends in one or in a parenthesis, and holds neither a backtick nor a line
break.
-/

import LlmTxt.Frontmatter.Rules
import LlmTxt.Outline.Bullet
import LlmTxt.Proofs.Document.Passages
import LlmTxt.Proofs.Heading
import LlmTxt.Proofs.Name
import LlmTxt.Proofs.Symbol.Agreement

namespace LlmTxt

/-! ### What a manual says -/

namespace Manual

/-- A signature: parentheses around characters of one line, backticks excluded. -/
structure Signature where
  inside : List Char
  plain : ∀ character ∈ inside, character ≠ '\x60' ∧ isLineBreak character = false

/-- An identifier with perhaps a signature. -/
structure Callable where
  name : List Char
  signature : Option Signature
  identifier : Name.isIdentifier name = true

/-- An object of a module. Classes and exceptions may own methods. -/
inductive Object where
  | class_ (itself : Callable) (methods : List Callable)
  | exception (itself : Callable) (methods : List Callable)
  | function (itself : Callable)

namespace Object

def itself : Object → Callable
  | class_ itself _ | exception itself _ | function itself => itself

def methods : Object → List Callable
  | class_ _ methods | exception _ methods => methods
  | function _ => []

def kind : Object → SymbolKind
  | class_ .. => .class_
  | exception .. => .exception
  | function _ => .function

end Object

/-- A module: a dotted name that no underscore begins or ends, and at least one object. No two
objects of a module and no two methods of an object have one name. -/
structure Module where
  name : List Char
  objects : List Object
  path : Name.isPath name = true
  begins : name.head? ≠ some '_'
  ends : name.getLast? ≠ some '_'
  nonempty : objects ≠ []
  objects_nodup : (objects.map (·.itself.name)).Nodup
  methods_nodup : ∀ object ∈ objects, (object.methods.map (·.name)).Nodup

/-- A line of prose: it is not blank, and neither a fence nor a heading. -/
structure Prose where
  text : List Char
  unbroken : ∀ character ∈ text, isLineBreak character = false
  filled : Text.isAllBlank text = false
  noFence : Fence.ofLine? text = none
  noHeading : Heading.ofLine? text = none

/-- The lines of dashes around a frontmatter. -/
def dashes : List Char := ['-', '-', '-']

/-- Lines as they are numbered in a document, where each ends with a line feed. -/
def numbered (number offset : Nat) (lines : List (List Char)) : List Line :=
  numberLines number offset (lines.map fun line => ⟨line, ['\n']⟩)

/-- The lines of a frontmatter. The line of dashes behind them is the one that closes it. -/
structure Front where
  lines : List (List Char)
  unbroken : ∀ line ∈ lines, ∀ character ∈ line, isLineBreak character = false
  closed : frontmatterEnd none (numbered 2 4 (lines ++ [dashes])) =
    .closed (numbered 2 4 lines) (lines.length + 2) []

namespace Front

/-- What the lines of a frontmatter hold. -/
def read (front : Front) : Except Yaml.Failure Frontmatter :=
  Frontmatter.ofLines (numbered 2 4 front.lines) (front.lines.length + 2)

/-- A frontmatter can be read, and nothing is wrong with it. -/
def IsAccepted (front : Front) (languages : List String) : Prop :=
  (front.read.map fun frontmatter => Frontmatter.check (some frontmatter) languages) = .ok []

end Front

end Manual

/-- A manual. The example imports objects of the modules, each given by the name of its module and
its own; `gap` blank lines come before every heading that begins a section. -/
structure Manual where
  front : Manual.Front
  concepts : Manual.Prose
  pitfalls : Manual.Prose
  modules : List Manual.Module
  imports : List (List Char × List Char)
  gap : Nat
  nonempty : modules ≠ []
  modules_nodup : (modules.map (·.name)).Nodup
  imports_known : ∀ taken ∈ imports, ∃ module ∈ modules, taken.1 = module.name ∧
    ∃ object ∈ module.objects, taken.2 = object.itself.name

/-! ### The symbols of a manual -/

namespace Manual

/-- A symbol of a module, under its name within the module. -/
structure Symbol where
  kind : SymbolKind
  name : List Char
  signature : Option Signature

/-- The symbols of an object: itself and its methods. -/
def Object.symbols (object : Object) : List Symbol :=
  ⟨object.kind, object.itself.name, object.itself.signature⟩ ::
    object.methods.map fun method =>
      ⟨.method, object.itself.name ++ '.' :: method.name, method.signature⟩

/-- The symbols of a module in the order of its section. -/
def Module.symbols (module : Module) : List Symbol :=
  module.objects.flatMap (·.symbols)

/-- The categories of an Index with their labels. -/
def categories : List (SymbolKind × List Char) := [
  (.class_, "Classes".toList),
  (.method, "Methods".toList),
  (.function, "Functions".toList),
  (.exception, "Exceptions".toList)]

/-- The symbols of a kind. -/
def Module.ofKind (module : Module) (kind : SymbolKind) : List Symbol :=
  module.symbols.filter fun symbol => symbol.kind == kind

/-- The symbols of a module in the order of the Index. -/
def Module.listed (module : Module) : List Symbol :=
  categories.flatMap fun category => module.ofKind category.1

/-! ### How a manual is written -/

def Signature.text (signature : Signature) : List Char :=
  '(' :: (signature.inside ++ [')'])

/-- What stands behind a name for its signature. -/
def signatureText (signature : Option Signature) : List Char :=
  (signature.map Signature.text).getD []

/-- A name with the signature behind it, if there is one. -/
def written (name : List Char) (signature : Option Signature) : List Char :=
  name ++ signatureText signature

/-- The bullet of a module. -/
def Module.bullet (module : Module) : List Char :=
  "- **".toList ++ module.name ++ "**".toList

/-- A symbol between backticks. -/
def Symbol.coded (symbol : Symbol) : List Char :=
  '\x60' :: (written symbol.name symbol.signature ++ ['\x60'])

/-- The bullet of a category. -/
def categoryBullet (label : List Char) (symbols : List Symbol) : List Char :=
  "  - ".toList ++ label ++ ": ".toList ++ ", ".toList.intercalate (symbols.map Symbol.coded)

/-- What the Index says of a module. Categories without symbols are left out. -/
def Module.indexLines (module : Module) : List (List Char) :=
  module.bullet :: categories.filterMap fun category =>
    if (module.ofKind category.1).isEmpty then none
    else some (categoryBullet category.2 (module.ofKind category.1))

/-- The words before the name in the heading of an object. -/
def Object.lead : Object → List Char
  | .class_ .. => "class ".toList
  | .exception .. => "exception ".toList
  | .function _ => "Function: ".toList

/-- The headings of an object and its methods. -/
def Object.lines (object : Object) : List (List Char) :=
  ("#### ".toList ++ (object.lead ++ written object.itself.name object.itself.signature)) ::
    object.methods.map fun method =>
      "##### ".toList ++ ("method ".toList ++ written method.name method.signature)

/-- The statement that takes an object out of a module. -/
def importLine (taken : List Char × List Char) : List Char :=
  "from ".toList ++ (taken.1 ++ (" import ".toList ++ taken.2))

section Writing

variable (manual : Manual)

/-- A section: its heading, its lines, and the gap behind it. -/
def sectionLines (heading : List Char) (lines : List (List Char)) : List (List Char) :=
  heading :: (lines ++ List.replicate manual.gap [])

/-- The lines of the example: a code block. -/
def exampleLines : List (List Char) :=
  "\x60\x60\x60python".toList :: (manual.imports.map importLine ++ ["\x60\x60\x60".toList])

/-- The lines behind the frontmatter. -/
def bodyLines : List (List Char) :=
  List.replicate manual.gap [] ++
    (manual.sectionLines "## Core Concepts".toList [manual.concepts.text] ++
      (manual.sectionLines "## Pitfalls".toList [manual.pitfalls.text] ++
        (manual.sectionLines "## Index".toList (manual.modules.flatMap (·.indexLines)) ++
          (manual.sectionLines "## Module Sections".toList [] ++
            (manual.modules.flatMap (fun module =>
              manual.sectionLines ("### Module: ".toList ++ module.name)
                (module.objects.flatMap (·.lines))) ++
              manual.sectionLines "## Global Examples".toList manual.exampleLines)))))

/-- The lines of the document. -/
def lines : List (List Char) :=
  dashes :: (manual.front.lines ++ dashes :: manual.bodyLines)

/-- The document as one text. -/
def text : String :=
  String.ofList (manual.lines.flatMap fun line => line ++ ['\n'])

end Writing

/-! ### What the tables of a manual should hold -/

def Symbol.declared (module : List Char) (symbol : Symbol) : Declared :=
  ⟨String.ofList module, symbol.kind, String.ofList symbol.name,
    symbol.signature.map fun signature => String.ofList signature.text⟩

/-- What the Index of a manual lists. -/
def listed (manual : Manual) : List (String × List Declared) :=
  manual.modules.map fun module =>
    (String.ofList module.name, module.listed.map (·.declared module.name))

/-- What the module sections of a manual declare. -/
def documented (manual : Manual) : List (String × List Declared) :=
  manual.modules.map fun module =>
    (String.ofList module.name, module.symbols.map (·.declared module.name))

end Manual

namespace Manual

open Text

/-! ### Signatures -/

theorem trim_signature (signature : Signature) : trim signature.text = signature.text := by
  have begins : ∀ first ∈ signature.text.head?, isBlank first = false := by
    rintro _ ⟨⟩
    rfl
  have ends : ∀ last ∈ signature.text.getLast?, isBlank last = false := by
    intro last member
    rw [Signature.text, ← List.cons_append, List.getLast?_concat] at member
    cases member
    rfl
  exact trimBy_of_ends begins ends

theorem mem_signature {signature : Signature} {character : Char}
    (member : character ∈ signature.text) : character ≠ '\x60' ∧ isLineBreak character = false := by
  rcases List.mem_cons.mp member with rfl | later
  · exact ⟨by decide, rfl⟩
  · rcases List.mem_append.mp later with inside | last
    · exact signature.plain character inside
    · rw [List.mem_singleton.mp last]
      exact ⟨by decide, rfl⟩

/-- A signature ends the name before it. -/
theorem endsName_signatureText (signature : Option Signature) :
    Name.EndsName (signatureText signature) := by
  cases signature with
  | none => exact Name.endsName_nil
  | some given => exact Name.endsName_cons (by decide) (by decide)

/-! ### Names with signatures -/

section Written

variable {name : List Char} (path : Name.isPath name = true) (signature : Option Signature)

include path

theorem name_ne_nil : name ≠ [] := by
  rintro rfl
  cases path

theorem written_begins : ∀ first ∈ (written name signature).head?, isWord first = true := by
  intro first member
  rw [written, List.head?_append_of_ne_nil _ (name_ne_nil path)] at member
  exact Name.isWord_head?_of_isPath path first member

theorem written_ends :
    ∀ last ∈ (written name signature).getLast?, isWord last = true ∨ last = ')' := by
  intro last member
  cases signature with
  | none =>
    rw [written, signatureText, Option.map_none, Option.getD_none, List.append_nil] at member
    exact Or.inl (Name.isWord_getLast?_of_isPath path last member)
  | some given =>
    have final : (written name (some given)).getLast? = some ')' := by
      rw [written, signatureText, Option.map_some, Option.getD_some, Signature.text,
        ← List.cons_append, ← List.append_assoc, List.getLast?_concat]
    rw [final] at member
    cases member
    exact Or.inr rfl

theorem mem_written {character : Char} (member : character ∈ written name signature) :
    character ≠ '\x60' ∧ isLineBreak character = false := by
  rcases List.mem_append.mp member with inName | inSignature
  · rcases Name.isWord_or_eq_dot_of_isPath path character inName with word | rfl
    · exact ⟨ne_of_isWord word (by decide), isLineBreak_of_isWord word⟩
    · exact ⟨by decide, rfl⟩
  · cases signature with
    | none => cases inSignature
    | some given => exact mem_signature inSignature

theorem written_ne_nil : written name signature ≠ [] := by
  intro empty
  exact name_ne_nil path (List.append_eq_nil_iff.mp empty).1

/-- White space before a name that is written has no part in it. -/
theorem dropWhile_isBlank_written :
    (written name signature).dropWhile isBlank = written name signature :=
  dropWhile_of_head? fun first member =>
    isBlank_of_isWord (written_begins path signature first member)

/-- What is between the backticks of an Index is read back. -/
theorem ofCode?_written (line : Nat) :
    OutlineToken.ofCode? (written name signature) line =
      some ⟨String.ofList name, signature.map fun given => String.ofList given.text, line⟩ := by
  have taken : Name.takePath? (written name signature) = some (name, signatureText signature) :=
    Name.takePath?_append path (endsName_signatureText signature)
  rw [OutlineToken.ofCode?, dropWhile_isBlank_written path, taken]
  cases signature with
  | none => rfl
  | some given =>
    have kept : trim (signatureText (some given)) = given.text := trim_signature given
    dsimp only
    rw [kept]
    rfl

end Written

end Manual

end LlmTxt

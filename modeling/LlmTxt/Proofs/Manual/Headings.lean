/-
This file reads the headings of a manual back. Those that begin sections are taken for the kinds
they are written for, those of modules name their modules, and those of objects and methods declare
them.
-/

import LlmTxt.Proofs.Manual.Text
import LlmTxt.Proofs.Symbol.Declaration
import LlmTxt.Proofs.Symbol.ModuleName
import LlmTxt.Proofs.Text.Case

namespace LlmTxt

open Text

/-! ### Words before a name -/

namespace ObjectHeader

theorem beginsName_of_isNameStart {character : Char} (begins : isNameStart character = true) :
    beginsName character = true :=
  of_isNameStart (by decide) begins

variable {text : List Char} (begins : ∀ first ∈ text.head?, isWord first = true)

include begins

theorem afterWord?_space (colon : Bool) : afterWord? colon (' ' :: text) = some text := by
  unfold afterWord?
  dsimp only
  rw [dropWhile_isBlank_space begins]
  split
  · exact absurd (begins ':' rfl) (by decide)
  · exact if_pos (by simp)

theorem afterWord?_colon : afterWord? true (':' :: ' ' :: text) = some text := by
  have whole : (':' :: ' ' :: text).dropWhile isBlank = ':' :: ' ' :: text :=
    List.dropWhile_cons_of_neg (by decide)
  unfold afterWord?
  dsimp only
  rw [whole]
  show (if true = true then some ((' ' :: text).dropWhile isBlank) else none) = some text
  rw [if_pos rfl, dropWhile_isBlank_space begins]

omit begins in
/-- A text begins with a word of a declaration if it begins with none that comes before in the
list. -/
theorem word?_of_split {before after : List (List Char × SymbolKind × Bool)}
    {entry : List Char × SymbolKind × Bool} (split : words = before ++ entry :: after)
    (others : ∀ other ∈ before, afterFolded? other.1 text = none) {rest left : List Char}
    (follows : afterFolded? entry.1 text = some rest)
    (found : afterWord? entry.2.2 rest = some left) :
    word? text = some (text.take entry.1.length, entry.2.1, left) := by
  unfold word?
  rw [split, List.findSome?_append, List.findSome?_eq_none_iff.mpr, Option.none_or,
    List.findSome?_cons, follows]
  · dsimp only
    rw [found]
    rfl
  · intro other member
    rw [others other member]

theorem word?_class : word? ("class ".toList ++ text) = some ("class".toList, .class_, text) := by
  have others : ∀ other ∈ words.take 0, afterFolded? other.1 ("class ".toList ++ text) = none := by
    rintro other ⟨⟩
  exact word?_of_split (List.take_append_drop 0 words).symm others rfl
    (afterWord?_space begins false)

theorem word?_exception :
    word? ("exception ".toList ++ text) = some ("exception".toList, .exception, text) := by
  have others : ∀ other ∈ words.take 1,
      afterFolded? other.1 ("exception ".toList ++ text) = none := by
    intro other member
    rw [List.mem_singleton.mp member]
    rfl
  exact word?_of_split (List.take_append_drop 1 words).symm others rfl
    (afterWord?_space begins false)

theorem word?_function :
    word? ("Function: ".toList ++ text) = some ("Function".toList, .function, text) := by
  have others : ∀ other ∈ words.take 2,
      afterFolded? other.1 ("Function: ".toList ++ text) = none := by
    intro other member
    rcases List.mem_pair.mp member with rfl | rfl <;> rfl
  exact word?_of_split (List.take_append_drop 2 words).symm others rfl (afterWord?_colon begins)

theorem word?_method :
    word? ("method ".toList ++ text) = some ("method".toList, .method, text) := by
  have others : ∀ other ∈ words.take 3,
      afterFolded? other.1 ("method ".toList ++ text) = none := by
    intro other member
    rcases List.mem_cons.mp member with rfl | later
    · rfl
    · rcases List.mem_pair.mp later with rfl | rfl <;> rfl
  exact word?_of_split (List.take_append_drop 3 words).symm others rfl
    (afterWord?_space begins true)

end ObjectHeader

/-! ### Declarations -/

namespace Manual

/-- What stands before the name in a heading that declares something of a kind. -/
structure IsLead (lead word : List Char) (kind : SymbolKind) : Prop where
  word_eq : ∀ text : List Char, (∀ first ∈ text.head?, isWord first = true) →
    ObjectHeader.word? (lead ++ text) = some (word, kind, text)
  known : (ObjectHeader.words.any fun entry => entry.1 == lower word) = true
  plain : lead.all (fun character => character != '\x60' && !isLineBreak character) = true
  begins : ∃ first rest, lead = first :: rest ∧ isBlank first = false

theorem isLead_class : IsLead "class ".toList "class".toList .class_ :=
  ⟨fun _ => ObjectHeader.word?_class, by decide, by decide, ⟨_, _, rfl, rfl⟩⟩

theorem isLead_exception : IsLead "exception ".toList "exception".toList .exception :=
  ⟨fun _ => ObjectHeader.word?_exception, by decide, by decide, ⟨_, _, rfl, rfl⟩⟩

theorem isLead_function : IsLead "Function: ".toList "Function".toList .function :=
  ⟨fun _ => ObjectHeader.word?_function, by decide, by decide, ⟨_, _, rfl, rfl⟩⟩

theorem isLead_method : IsLead "method ".toList "method".toList .method :=
  ⟨fun _ => ObjectHeader.word?_method, by decide, by decide, ⟨_, _, rfl, rfl⟩⟩

theorem Object.exists_isLead (object : Object) : ∃ word, IsLead object.lead word object.kind := by
  cases object with
  | class_ itself methods => exact ⟨_, isLead_class⟩
  | exception itself methods => exact ⟨_, isLead_exception⟩
  | function itself => exact ⟨_, isLead_function⟩

theorem IsLead.mem {lead word : List Char} {kind : SymbolKind} (isLead : IsLead lead word kind)
    {character : Char} (member : character ∈ lead) :
    character ≠ '\x60' ∧ isLineBreak character = false := by
  have own := List.all_eq_true.mp isLead.plain character member
  simpa using own

section Declaring

variable {lead word name : List Char} {kind : SymbolKind} (isLead : IsLead lead word kind)
  (identifier : Name.isIdentifier name = true) (signature : Option Signature)

include isLead identifier

/-- What declares something can stand in a heading as it is. -/
theorem isTitle_written : Heading.IsTitle (lead ++ written name signature) := by
  have path := Name.isPath_of_isIdentifier identifier
  obtain ⟨first, rest, split, noBlank⟩ := isLead.begins
  refine ⟨?_, ?_, ?_, ?_⟩
  · rw [split]
    rintro _ ⟨⟩
    exact noBlank
  · intro last member
    rw [getLast?_append_of_ne_nil _ (written_ne_nil path signature)] at member
    rcases written_ends path signature last member with final | rfl
    · exact ⟨isBlank_of_isWord final, ne_of_isWord final (by decide)⟩
    · exact ⟨rfl, by decide⟩
  · intro empty
    exact written_ne_nil path signature (List.append_eq_nil_iff.mp empty).2
  · intro feed
    rcases List.mem_append.mp feed with inLead | inWritten
    · cases (isLead.mem inLead).2
    · cases (mem_written path signature inWritten).2

theorem bare_written :
    ObjectHeader.bare (lead ++ written name signature) = lead ++ written name signature := by
  have path := Name.isPath_of_isIdentifier identifier
  have kept : (lead ++ written name signature).filter (· != '\x60') =
      lead ++ written name signature := by
    refine List.filter_eq_self.mpr fun character member => bne_iff_ne.mpr ?_
    rcases List.mem_append.mp member with inLead | inWritten
    · exact (isLead.mem inLead).1
    · exact (mem_written path signature inWritten).1
  rw [ObjectHeader.bare, kept]
  exact (isTitle_written isLead identifier signature).trim_eq

omit isLead identifier in
theorem signature?_signatureText :
    ObjectHeader.signature? ((signatureText signature).dropWhile isBlank) =
      some (signature.map fun given => String.ofList given.text) := by
  cases signature with
  | none => rfl
  | some given =>
    have whole : (signatureText (some given)).dropWhile isBlank =
        '(' :: (given.inside ++ [')']) := List.dropWhile_cons_of_neg (by decide)
    have noFeed : '\n' ∉ given.inside ++ [')'] := by
      intro feed
      cases (mem_signature (List.mem_cons_of_mem '(' feed)).2
    have oneLine : (given.inside ++ [')']).contains '\n' = false := by
      simpa using noFeed
    rw [whole, ObjectHeader.signature?, oneLine]
    exact congrArg (fun text => some (some (String.ofList text))) (trim_signature given)

/-- A heading that declares something by its name and perhaps a signature is read so. -/
theorem ofHeading?_written :
    ObjectHeader.ofHeading? (lead ++ written name signature) =
      .ok (some ⟨kind, String.ofList name,
        signature.map fun given => String.ofList given.text⟩) := by
  have path := Name.isPath_of_isIdentifier identifier
  have taken : Name.takePathBy ObjectHeader.beginsName (written name signature) =
      some (name, signatureText signature) := by
    obtain ⟨first, more, rfl, nameBegins, words⟩ := Name.exists_of_isIdentifier identifier
    exact Name.takePathBy_append (ObjectHeader.beginsName_of_isNameStart nameBegins)
      (Name.pathTail_of_isWord words) (endsName_signatureText signature)
  unfold ObjectHeader.ofHeading?
  rw [bare_written isLead identifier, isLead.word_eq _ (written_begins path signature)]
  dsimp only
  rw [taken]
  dsimp only
  rw [signature?_signatureText]
  dsimp only
  rw [if_pos isLead.known]

end Declaring

/-! ### Modules -/

section Modules

variable (module : Module)

theorem Module.isEmpty_name : (String.ofList module.name).isEmpty = false := by
  simpa using name_ne_nil module.path

theorem Module.mem_titles : "Module: ".toList ++ module.name ∈ ModuleName.titles module.name :=
  List.mem_cons_self

theorem Module.isTitle : Heading.IsTitle ("Module: ".toList ++ module.name) :=
  ModuleName.isTitle_of_mem module.path module.mem_titles

end Modules

end Manual

end LlmTxt

/-
This file shows what lists of names come to, however they are given. A list may be one text with
commas between the names, or hold the names one by one, with nothing at all among them. All of these
come to the same names: without the white space around them, in small letters where that is wanted,
and without the blank ones. The names that are allowed by default are of this form already, so they
stay as they are when the names of a file are put behind them.
-/

import LlmTxt.Proofs.Text.Trim
import LlmTxt.Settings.File

namespace LlmTxt

open Text

namespace GivenItem

/-- The text of an item, if it is one. -/
def text? : GivenItem → Option String
  | text content => some content
  | _ => none

/-- An item of a list of names: a text, or nothing at all. -/
def IsName : GivenItem → Prop
  | text _ | nothing => True
  | bytes _ | other _ => False

end GivenItem

namespace Settings

/-- Names without the white space around them; blank ones are left out. -/
def bareNames (names : List String) : List String :=
  (names.map fun name => String.ofList (trim name.toList)).filter fun bare => !bare.isEmpty

theorem mem_bareNames {names : List String} {bare : String} :
    bare ∈ bareNames names ↔ ∃ name ∈ names, bare.toList = trim name.toList ∧ bare ≠ "" := by
  simp only [bareNames, List.mem_filter, List.mem_map, Bool.not_eq_true',
    String.isEmpty_eq_false_iff]
  constructor
  · rintro ⟨⟨name, member, rfl⟩, filled⟩
    exact ⟨name, member, String.toList_ofList, filled⟩
  · rintro ⟨name, member, same, filled⟩
    exact ⟨⟨name, member, by rw [← same, String.ofList_toList]⟩, filled⟩

/-- Names without the white space around them and in small letters; blank ones are left out. -/
def smallNames (names : List String) : List String :=
  (bareNames names).map fun bare => String.ofList (lower bare.toList)

/-- Names as a setting takes them: in small letters where `small` says so. -/
def cleanNames (small : Bool) (names : List String) : List String :=
  if small then smallNames names else bareNames names

theorem bareNames_append (front back : List String) :
    bareNames (front ++ back) = bareNames front ++ bareNames back := by
  unfold bareNames
  rw [List.map_append, List.filter_append]

theorem cleanNames_cons (small : Bool) (name : String) (rest : List String) :
    cleanNames small (name :: rest) =
      let bare := trim name.toList
      if bare.isEmpty then cleanNames small rest
      else String.ofList (if small then lower bare else bare) :: cleanNames small rest := by
  unfold cleanNames smallNames bareNames
  rw [List.map_cons]
  cases bare : trim name.toList with
  | nil => rfl
  | cons first more =>
    rw [List.filter_cons_of_pos (by simp)]
    cases small <;> simp

/-- The bytes of a name are those of visible characters of ASCII, and there are some. -/
def isPlain (name : String) : Bool :=
  let bytes := name.toByteArray.data.toList
  !bytes.isEmpty && bytes.all fun byte => Nat.ble 33 byte.toNat && Nat.ble byte.toNat 126

theorem bytes_eq (name : String) :
    name.toByteArray.data.toList = name.toList.flatMap String.utf8EncodeChar := by
  rw [← String.utf8Encode_toList, List.utf8Encode, List.toList_data_toByteArray]

/-- A character that takes a byte of ASCII alone is not blank if the byte is visible. -/
theorem isBlank_of_bytes {character : Char}
    (bytes : ∀ byte ∈ String.utf8EncodeChar character, 33 ≤ byte.toNat ∧ byte.toNat ≤ 126) :
    isBlank character = false := by
  have toNat (value : Nat) : (UInt8.ofNat value).toNat = value % 256 := UInt8.toNat_ofNat
  have point : character.val.toNat = character.toNat := rfl
  unfold String.utf8EncodeChar at bytes
  simp only [point] at bytes
  split at bytes
  · have own := bytes _ List.mem_cons_self
    rw [toNat] at own
    unfold isBlank
    simp only [Bool.or_eq_false_iff, Bool.and_eq_false_iff, decide_eq_false_iff_not,
      beq_eq_false_iff_ne]
    omega
  · -- The first of several bytes is beyond ASCII.
    split at bytes
    · have first := bytes _ List.mem_cons_self
      rw [toNat] at first
      omega
    · split at bytes
      · have first := bytes _ List.mem_cons_self
        rw [toNat] at first
        omega
      · have first := bytes _ List.mem_cons_self
        rw [toNat] at first
        omega

theorem trim_of_isPlain {name : String} (plain : isPlain name = true) :
    trim name.toList = name.toList ∧ name.toList ≠ [] := by
  unfold isPlain at plain
  rw [bytes_eq, Bool.and_eq_true, Bool.not_eq_true', List.isEmpty_eq_false_iff] at plain
  have visible : ∀ character ∈ name.toList, isBlank character = false := by
    intro character member
    refine isBlank_of_bytes fun byte inCharacter => ?_
    have both := List.all_eq_true.mp plain.2 byte
      (List.mem_flatMap.mpr ⟨character, member, inCharacter⟩)
    rwa [Bool.and_eq_true, Nat.ble_eq, Nat.ble_eq] at both
  refine ⟨trimBy_of_ends (fun first begins => visible first (List.mem_of_head? begins))
    (fun last ends => visible last (List.mem_of_getLast? ends)), fun empty => ?_⟩
  rw [empty] at plain
  exact plain.1 rfl

/-- The names that are allowed by default are bare. Their bytes are looked at, because those of a
fixed text are at hand, while its characters have to be decoded. -/
theorem bareNames_defaultAllowed : bareNames defaultAllowed = defaultAllowed := by
  have plain : defaultAllowed.all isPlain = true := by decide +kernel
  unfold bareNames
  have bare : defaultAllowed.map (fun name => String.ofList (trim name.toList)) =
      defaultAllowed := by
    refine (List.map_congr_left fun name member => ?_).trans (List.map_id _)
    rw [(trim_of_isPlain (List.all_eq_true.mp plain name member)).1, String.ofList_toList]
    rfl
  rw [bare]
  refine List.filter_eq_self.mpr fun name member => ?_
  have nonempty := (trim_of_isPlain (List.all_eq_true.mp plain name member)).2
  rw [Bool.not_eq_true', String.isEmpty_eq_false_iff]
  exact fun empty => nonempty (by rw [empty]; rfl)

/-- The languages that are accepted by default are written in small letters. -/
theorem smallNames_defaultLanguages : smallNames defaultLanguages = defaultLanguages := by
  decide +kernel

end Settings

namespace GivenItem

/-- Items that are names are never refused. -/
theorem names_of_isName (small : Bool) {items : List GivenItem}
    (each : ∀ item ∈ items, item.IsName) :
    names small items = .ok ((Settings.cleanNames small (items.filterMap text?)).map some) := by
  induction items with
  | nil => cases small <;> rfl
  | cons item rest inductionHypothesis =>
    obtain ⟨own, others⟩ := List.forall_mem_cons.mp each
    have further := inductionHypothesis others
    cases item with
    | bytes content => exact own.elim
    | other type => exact own.elim
    | nothing => exact further
    | text content =>
      have texts : (text content :: rest).filterMap text? = content :: rest.filterMap text? := rfl
      rw [names, further, texts, Settings.cleanNames_cons]
      cases trim content.toList <;> rfl

end GivenItem

namespace Given

/-- A list of names: a text with commas between them, or texts one by one. -/
def IsNameList : Given → Prop
  | text _ => True
  | items content => ∀ item ∈ content, item.IsName
  | bytes _ | truth _ | number .. | single _ => False

/-- The names in a text with commas between them. -/
def separated (content : String) : List String :=
  (splitAt ',' content.toList).map String.ofList

/-- The names in a list of names, as they are given. -/
def names : Given → List String
  | text content => separated content
  | items content => content.filterMap GivenItem.text?
  | bytes _ | truth _ | number .. | single _ => []

theorem forall_isName_text (names : List String) :
    ∀ item ∈ names.map GivenItem.text, item.IsName := by
  intro item member
  obtain ⟨_, _, rfl⟩ := List.mem_map.mp member
  trivial

theorem filterMap_text (names : List String) :
    (names.map GivenItem.text).filterMap GivenItem.text? = names := by
  rw [List.filterMap_map]
  exact List.filterMap_some

theorem listed_text (content : String) :
    (text content).listed = .ok ((separated content).map .text) := by
  unfold listed separated
  rw [List.map_map]
  rfl

/-- A list of names holds names. -/
theorem IsNameList.listed {given : Given} (valid : given.IsNameList) :
    ∃ items, given.listed = .ok items ∧ (∀ item ∈ items, item.IsName) ∧
      items.filterMap GivenItem.text? = given.names := by
  cases given with
  | text content =>
    exact ⟨_, listed_text content, forall_isName_text _, filterMap_text _⟩
  | items content => exact ⟨content, rfl, valid, rfl⟩
  | bytes content => exact valid.elim
  | truth value => exact valid.elim
  | number type meaning => exact valid.elim
  | single type => exact valid.elim

/-- What counts as nothing holds no names. -/
theorem bareNames_of_isNothing {given : Given} (nothing : given.isNothing = true) :
    Settings.bareNames given.names = [] := by
  cases given with
  | text content =>
    have empty : content = "" := String.isEmpty_iff.mp nothing
    rw [empty]
    rfl
  | items content =>
    rw [List.isEmpty_iff.mp nothing]
    rfl
  | bytes content => rfl
  | truth value => rfl
  | number type meaning => rfl
  | single type => rfl

end Given

namespace Settings

/-- A list of names that a setting is given as comes to its names. -/
theorem givenNames_of_isNameList (small : Bool) (default : List String) {given : Given}
    (valid : given.IsNameList) :
    givenNames small default (some given) = .ok ((cleanNames small given.names).map some) := by
  obtain ⟨items, listed, each, names⟩ := valid.listed
  have run : givenNames small default (some given) =
      given.listed.bind (GivenItem.names small) := rfl
  rw [run, listed, ← names]
  exact GivenItem.names_of_isName small each

/-- The names that a file allows come behind those that are allowed by default. -/
theorem givenNames_extended (default : List String) {given : Given}
    (valid : given.IsNameList ∨ given.isNothing = true) :
    ∃ extended, SettingsFile.extended given = .ok extended ∧
      givenNames false default (some extended) =
        .ok ((defaultAllowed ++ bareNames given.names).map some) := by
  have whole (items : List GivenItem) (each : ∀ item ∈ items, item.IsName) :
      givenNames false default (some (.items (defaultAllowed.map .text ++ items))) =
        .ok ((defaultAllowed ++ bareNames (items.filterMap GivenItem.text?)).map some) := by
    have all : (Given.items (defaultAllowed.map .text ++ items)).IsNameList := by
      intro item member
      rcases List.mem_append.mp member with known | own
      · exact Given.forall_isName_text _ item known
      · exact each item own
    have names : (Given.items (defaultAllowed.map .text ++ items)).names =
        defaultAllowed ++ items.filterMap GivenItem.text? := by
      refine List.filterMap_append.trans ?_
      rw [Given.filterMap_text]
    rw [givenNames_of_isNameList false default all, names]
    unfold cleanNames
    rw [if_neg Bool.false_ne_true, bareNames_append, bareNames_defaultAllowed]
  unfold SettingsFile.extended
  split
  · rename_i nothing
    have none := whole [] nofun
    rw [List.append_nil] at none
    rw [Given.bareNames_of_isNothing nothing]
    exact ⟨_, rfl, none⟩
  · rename_i something
    obtain ⟨items, listed, each, names⟩ := (valid.resolve_right something).listed
    rw [listed, ← names]
    exact ⟨_, rfl, whole items each⟩

theorem mapM_id_some {Item : Type} (items : List Item) : (items.map some).mapM id = some items := by
  rw [List.mapM_map]
  exact List.mapM_pure.trans (congrArg some (List.map_id items))

/-- Names that a caller gives count if there are any. -/
theorem overridingNames_text (small : Bool) (names? : Option (List String)) :
    overridingNames small (names?.map fun names => .items (names.map .text)) =
      .ok ((names?.filter fun names => !names.isEmpty).map (cleanNames small)) := by
  cases names? with
  | none => rfl
  | some names =>
    cases names with
    | nil => rfl
    | cons name rest =>
      have filled : (Given.items ((name :: rest).map .text)).isNothing = false := rfl
      have clean := GivenItem.names_of_isName small (Given.forall_isName_text (name :: rest))
      rw [Given.filterMap_text] at clean
      unfold overridingNames
      simp only [Option.map_some, filled, Given.each, bind, Except.bind, clean, mapM_id_some]
      rfl

end Settings

end LlmTxt

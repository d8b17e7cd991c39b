/-
This file reads the bytes of an ASCII text back, and says which texts can be written as bytes at all.
Each ASCII character takes one byte, and the text comes back as it went in if it holds no carriage
return, of which line feeds are made. Any text is encoded that holds no surrogate. Surrogates are told
apart from each other and from all characters but the stand-ins.
-/

import LlmTxt.Proofs.Text.Case
import LlmTxt.Proofs.Text.Pieces
import LlmTxt.Text.Surrogate
import LlmTxt.Text.Utf8

namespace LlmTxt.Text

/-! ### ASCII texts -/

/-- The bytes of an ASCII text. -/
def asciiBytes (text : List Char) : List UInt8 :=
  text.map fun character => UInt8.ofNat character.toNat

theorem toNat_ofNat_of_isAscii {character : Char} (ascii : isAscii character = true) :
    (UInt8.ofNat character.toNat).toNat = character.toNat := by
  have small : character.toNat < 128 := of_decide_eq_true ascii
  exact UInt8.toNat_ofNat_of_lt' (Nat.lt_trans small (by decide))

theorem utf8Width_of_isAscii {character : Char} (ascii : isAscii character = true) :
    utf8Width (UInt8.ofNat character.toNat) = 1 := by
  refine if_pos (UInt8.lt_iff_toNat_lt.mpr ?_)
  rw [toNat_ofNat_of_isAscii ascii]
  exact of_decide_eq_true ascii

theorem utf8From_asciiBytes (position : Nat) {text : List Char}
    (ascii : ∀ character ∈ text, isAscii character = true) :
    utf8From position 0 (asciiBytes text) = .ok text := by
  induction text generalizing position with
  | nil => rfl
  | cons character rest inductionHypothesis =>
    obtain ⟨own, others⟩ := List.forall_mem_cons.mp ascii
    rw [asciiBytes, List.map_cons, utf8From]
    dsimp only
    rw [utf8Width_of_isAscii own, if_neg (by decide), if_pos rfl, toNat_ofNat_of_isAscii own,
      Char.ofNat_toNat]
    exact congrArg (Except.map _) (inductionHypothesis (position + 1) others)

theorem withLineFeeds_of_notMem {text : List Char} (noReturn : '\r' ∉ text) :
    withLineFeeds text = text := by
  fun_induction withLineFeeds text with
  | case1 => rfl
  | case2 rest => exact absurd List.mem_cons_self noReturn
  | case3 rest => exact absurd List.mem_cons_self noReturn
  | case4 character rest _ _ inductionHypothesis =>
    exact congrArg _ (inductionHypothesis fun member => noReturn (List.mem_cons_of_mem _ member))

/-- A file of an ASCII text without carriage returns holds that text. -/
theorem fileText_asciiBytes {text : List Char}
    (plain : (text.all fun character => isAscii character && character != '\r') = true) :
    fileText (asciiBytes text) = .ok text := by
  have each (character : Char) (member : character ∈ text) :
      isAscii character = true ∧ character ≠ '\r' := by
    simpa using List.all_eq_true.mp plain character member
  have ascii : decodeUtf8 (asciiBytes text) = .ok text :=
    utf8From_asciiBytes 0 fun character member => (each character member).1
  have feeds : withLineFeeds text = text :=
    withLineFeeds_of_notMem fun member => (each _ member).2 rfl
  rw [fileText, ascii]
  exact congrArg Except.ok feeds

/-! ### Code points -/

theorem toNat_ofNat {point : Nat} (valid : point.isValidChar) :
    (Char.ofNat point).toNat = point := by
  rw [Char.ofNat, dif_pos valid]
  rfl

theorem isValidChar_standIn {point : Nat} (half : isSurrogate point = true) :
    (point + standInDistance).isValidChar := by
  simp only [isSurrogate, Bool.and_eq_true, decide_eq_true_eq] at half
  unfold Nat.isValidChar standInDistance
  omega

theorem isValidChar_of_not_isSurrogate {point : Nat} (last : point < 0x110000)
    (whole : isSurrogate point = false) : point.isValidChar := by
  simp only [isSurrogate, Bool.and_eq_false_iff, decide_eq_false_iff_not] at whole
  unfold Nat.isValidChar
  omega

theorem codePoint_standIn {point : Nat} (half : isSurrogate point = true) :
    codePoint (Char.ofNat (point + standInDistance)) = point := by
  have number := toNat_ofNat (isValidChar_standIn half)
  simp only [isSurrogate, Bool.and_eq_true, decide_eq_true_eq] at half
  unfold codePoint isStandIn
  rw [number, if_pos (by simp only [Bool.and_eq_true, decide_eq_true_eq]; omega)]
  exact Nat.add_sub_cancel point standInDistance

theorem codePoint_of_not_isSurrogate {point : Nat} (last : point < 0x110000)
    (whole : isSurrogate point = false) (free : isStandIn (Char.ofNat point) = false) :
    codePoint (Char.ofNat point) = point := by
  rw [codePoint, free, if_neg Bool.false_ne_true]
  exact toNat_ofNat (isValidChar_of_not_isSurrogate last whole)

/-- All code points but those of the stand-ins are told apart, surrogates and others. -/
theorem codePoint_ofCodePoint {point : Nat} (last : point < 0x110000)
    (free : isStandIn (Char.ofNat point) = false) : codePoint (ofCodePoint point) = point := by
  by_cases half : isSurrogate point = true
  · rw [ofCodePoint, if_pos half]
    exact codePoint_standIn half
  · rw [ofCodePoint, if_neg half]
    exact codePoint_of_not_isSurrogate last (Bool.eq_false_iff.mpr half) free

/-! ### Texts that are encoded -/

/-- Whether a text holds no surrogate. -/
def IsWhole (text : List Char) : Prop :=
  ∀ character ∈ text, isStandIn character = false

instance decidableIsWhole (text : List Char) : Decidable (IsWhole text) :=
  List.decidableBAll (isStandIn · = false) text

theorem isWhole_cons {first : Char} {rest : List Char} :
    IsWhole (first :: rest) ↔ isStandIn first = false ∧ IsWhole rest :=
  List.forall_mem_cons

theorem isWhole_append {front back : List Char} :
    IsWhole (front ++ back) ↔ IsWhole front ∧ IsWhole back :=
  List.forall_mem_append

theorem isWhole_flatMap {Item : Type} {items : List Item} {text : Item → List Char} :
    IsWhole (items.flatMap text) ↔ ∀ item ∈ items, IsWhole (text item) :=
  List.forall_mem_flatMap

theorem isWhole_intercalate {separator : List Char} (between : IsWhole separator)
    {pieces : List (List Char)} :
    IsWhole (separator.intercalate pieces) ↔ ∀ piece ∈ pieces, IsWhole piece :=
  forall_mem_intercalate_iff between

theorem isWhole_replicate {character : Char} (whole : isStandIn character = false) (count : Nat) :
    IsWhole (List.replicate count character) := by
  intro other member
  rwa [List.eq_of_mem_replicate member]

/-- A text is encoded if and only if none of its characters means a surrogate. -/
theorem encodingFailure?_eq_none_iff {meansSurrogate : Char → Bool} {text : List Char} :
    encodingFailure? meansSurrogate text = none ↔
      ∀ character ∈ text, meansSurrogate character = false := by
  induction text with
  | nil => exact iff_of_true rfl nofun
  | cons first rest inductionHypothesis =>
    rw [List.forall_mem_cons, ← inductionHypothesis]
    unfold encodingFailure?
    cases half : meansSurrogate first with
    | true =>
      rw [List.dropWhile_cons_of_neg (by rw [half]; decide)]
      exact iff_of_false nofun fun both => Bool.noConfusion both.1
    | false =>
      rw [List.dropWhile_cons_of_pos (by rw [half]; rfl), and_iff_right rfl]
      split <;> simp

end LlmTxt.Text

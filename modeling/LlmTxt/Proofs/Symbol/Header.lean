/-
This file says exactly which headings cannot be read as declarations. A heading is matched against
the grammar with letters folded, and its word is then looked up in small letters. The two disagree
on a word that is spelled with a letter beyond ASCII, and only on such a word. So a heading fails
if and only if it has the form of a declaration and its word holds a dotless i, a dotted capital I
or a long s; all other headings are either declarations or outside the grammar.
-/

import LlmTxt.Proofs.Text.Case
import LlmTxt.Symbol.Header

namespace LlmTxt.ObjectHeader

open Text

/-- A heading has the form of a declaration: a word, a name behind it, and nothing but perhaps a
signature behind that. -/
def HasForm (heading written : List Char) : Prop :=
  ∃ kind rest name left signature, word? (bare heading) = some (written, kind, rest) ∧
    Name.takePathBy beginsName rest = some (name, left) ∧
    signature? (left.dropWhile isBlank) = some signature

/-- A heading has the form of a declaration with a word that holds a letter beyond ASCII. -/
def IsMisspelled (heading : List Char) : Prop :=
  ∃ written, HasForm heading written ∧ ∃ character ∈ written, character ∈ foldedLetters

/-! ### Words -/

theorem isAscii_of_mem_words {entry : List Char × SymbolKind × Bool} (member : entry ∈ words)
    {character : Char} (within : character ∈ entry.1) : isAscii character = true := by
  have all : words.all (fun entry => entry.1.all isAscii) = true := by decide
  exact List.all_eq_true.mp (List.all_eq_true.mp all entry member) character within

theorem ne_kelvin_of_mem_words {entry : List Char × SymbolKind × Bool} (member : entry ∈ words)
    {character : Char} (within : character ∈ entry.1) : character ≠ fold kelvinSign := by
  have all : words.all (fun entry => entry.1.all (· != fold kelvinSign)) = true := by decide
  exact bne_iff_ne.mp (List.all_eq_true.mp (List.all_eq_true.mp all entry member) character within)

/-- The word of a declaration is one of the four but for letter case. -/
theorem word?_eq_some {text written rest : List Char} {kind : SymbolKind}
    (found : word? text = some (written, kind, rest)) :
    ∃ entry ∈ words, written.map fold = entry.1 ∧ kind = entry.2.1 := by
  obtain ⟨entry, member, ofEntry⟩ := List.exists_of_findSome?_eq_some found
  split at ofEntry
  · cases ofEntry
  · rename_i behind after
    obtain ⟨left, _, same⟩ := Option.map_eq_some_iff.mp ofEntry
    cases same
    obtain ⟨own, split, folded⟩ := afterFolded?_eq_some_iff.mp after
    have length : entry.1.length = own.length := by rw [← folded, List.length_map]
    refine ⟨entry, member, ?_, rfl⟩
    rw [split, length, List.take_left, folded]

theorem lower_eq_of_isAscii {written lead : List Char} (folded : written.map fold = lead)
    (ascii : ∀ character ∈ written, isAscii character = true) : lower written = lead := by
  rw [lower_of_isAscii ascii, ← folded]
  exact List.map_congr_left fun character member => (fold_of_isAscii (ascii character member)).symm

/-- A word is found in small letters unless it holds a letter beyond ASCII. -/
theorem any_words_iff {text written rest : List Char} {kind : SymbolKind}
    (found : word? text = some (written, kind, rest)) :
    (words.any fun entry => entry.1 == lower written) = true ↔
      ¬∃ character ∈ written, character ∈ foldedLetters := by
  obtain ⟨entry, member, folded, _⟩ := word?_eq_some found
  constructor
  · rintro known ⟨character, inWritten, inLetters⟩
    obtain ⟨other, inWords, same⟩ := List.any_eq_true.mp known
    obtain ⟨small, inLower, beyond⟩ := exists_not_isAscii_lower inWritten inLetters
    rw [← eq_of_beq same] at inLower
    rw [isAscii_of_mem_words inWords inLower] at beyond
    cases beyond
  · intro noLetter
    refine List.any_eq_true.mpr ⟨entry, member, beq_iff_eq.mpr (lower_eq_of_isAscii folded ?_).symm⟩
    intro character inWritten
    have inWord : fold character ∈ entry.1 := folded ▸ List.mem_map_of_mem inWritten
    rcases isAscii_or_of_isAscii_fold (isAscii_of_mem_words member inWord) with
      ascii | letter | kelvin
    · exact ascii
    · exact absurd ⟨character, inWritten, letter⟩ noLetter
    · exact absurd (congrArg fold kelvin) (ne_kelvin_of_mem_words member inWord)

/-! ### Headings -/

/-- A heading has at most one word that makes it a declaration. -/
theorem HasForm.unique {heading written other : List Char} (form : HasForm heading written)
    (otherForm : HasForm heading other) : written = other := by
  obtain ⟨_, _, _, _, _, found, _⟩ := form
  obtain ⟨_, _, _, _, _, otherFound, _⟩ := otherForm
  rw [found] at otherFound
  exact congrArg Prod.fst (Option.some.inj otherFound)

/-- A heading without the form of a declaration is read as none. -/
theorem ofHeading?_of_not_hasForm {heading : List Char}
    (formless : ∀ written, ¬HasForm heading written) : ofHeading? heading = .ok none := by
  unfold ofHeading?
  cases found : word? (bare heading) with
  | none => rfl
  | some word =>
    obtain ⟨written, kind, rest⟩ := word
    dsimp only
    cases named : Name.takePathBy beginsName rest with
    | none => rfl
    | some path =>
      obtain ⟨name, left⟩ := path
      dsimp only
      cases signed : signature? (left.dropWhile isBlank) with
      | none => rfl
      | some signature =>
        exact absurd ⟨kind, rest, name, left, signature, found, named, signed⟩ (formless written)

/-- A heading with the form of a declaration is read if its word holds ASCII only. -/
theorem ofHeading?_eq_ok_iff_of_hasForm {heading written : List Char}
    (form : HasForm heading written) :
    (∃ header?, ofHeading? heading = .ok header?) ↔
      ¬∃ character ∈ written, character ∈ foldedLetters := by
  obtain ⟨kind, rest, name, left, signature, found, named, signed⟩ := form
  rw [← any_words_iff found]
  unfold ofHeading?
  rw [found]
  dsimp only
  rw [named]
  dsimp only
  rw [signed]
  dsimp only
  split
  · rename_i known
    exact iff_of_true ⟨_, rfl⟩ known
  · rename_i unknown
    exact iff_of_false (fun ⟨_, impossible⟩ => (nomatch impossible)) unknown

/-- Reading a heading fails if and only if its word is misspelled. -/
theorem ofHeading?_eq_ok_iff (heading : List Char) :
    (∃ header?, ofHeading? heading = .ok header?) ↔ ¬IsMisspelled heading := by
  by_cases hasForm : ∃ written, HasForm heading written
  · obtain ⟨written, form⟩ := hasForm
    rw [ofHeading?_eq_ok_iff_of_hasForm form]
    refine not_congr ⟨fun letters => ⟨written, form, letters⟩, ?_⟩
    rintro ⟨other, otherForm, letters⟩
    rwa [form.unique otherForm]
  · refine iff_of_true ⟨none, ofHeading?_of_not_hasForm fun written form => ?_⟩ ?_
    · exact hasForm ⟨written, form⟩
    · exact fun ⟨written, form, _⟩ => hasForm ⟨written, form⟩

end LlmTxt.ObjectHeader

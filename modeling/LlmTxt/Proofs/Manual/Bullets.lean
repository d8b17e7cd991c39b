/-
This file reads the bullets of an Index back, one by one. The bullet of a module gives its name,
and the bullet of a category gives its label and, between the backticks, the symbols that it lists.
What stands around the backticks is commas and spaces only, so nothing is left over.
-/

import LlmTxt.Outline.Reading
import LlmTxt.Proofs.Manual.Text
import LlmTxt.Proofs.Outline.Spans
import LlmTxt.Proofs.Symbol.ModuleName

namespace LlmTxt

open Text

/-! ### Between backticks -/

namespace OutlineToken

/-- Codes with commas between them are cut out one by one. -/
theorem exists_listing_intercalate {codes : List (List Char)} (plain : ∀ code ∈ codes, '\x60' ∉ code)
    (nonempty : ∀ code ∈ codes, code ≠ []) :
    ∃ listing : Listing, listing.text = ", ".toList.intercalate
        (codes.map fun code => '\x60' :: (code ++ ['\x60'])) ∧
      listing.codes = codes ∧ ∀ character ∈ listing.around, isSeparator character = true := by
  induction codes with
  | nil => exact ⟨.nil, rfl, rfl, by rintro _ ⟨⟩⟩
  | cons code rest inductionHypothesis =>
    obtain ⟨own, othersPlain⟩ := List.forall_mem_cons.mp plain
    obtain ⟨filled, othersFilled⟩ := List.forall_mem_cons.mp nonempty
    obtain ⟨listing, text, same, fillers⟩ := inductionHypothesis othersPlain othersFilled
    cases rest with
    | nil =>
      refine ⟨Listing.nil.consCode code own filled, ?_, rfl, by rintro _ ⟨⟩⟩
      rw [List.map_singleton, List.intercalate_singleton, Listing.text_consCode]
      rfl
    | cons next more =>
      refine ⟨((listing.cons ' ' (by decide)).cons ',' (by decide)).consCode code own filled, ?_,
        congrArg (code :: ·) same,
        List.forall_mem_cons.mpr ⟨rfl, List.forall_mem_cons.mpr ⟨rfl, fillers⟩⟩⟩
      rw [List.map_cons, List.intercalate_cons_of_ne_nil (by simp), ← text, Listing.text_consCode]
      simp [Listing.cons, Listing.text]

end OutlineToken

namespace Manual

/-! ### Bullets of categories -/

/-- The name and the signature of a symbol as a bullet lists them. -/
def Symbol.listing (symbol : Symbol) : String × Option String :=
  (String.ofList symbol.name, symbol.signature.map fun given => String.ofList given.text)

/-- The symbol as it is listed on a line. -/
def Symbol.token (symbol : Symbol) (line : Nat) : OutlineToken :=
  ⟨symbol.listing.1, symbol.listing.2, line⟩

/-- The symbols that a bullet lists are read back, and nothing is wrong with the bullet. -/
theorem listed_symbols {symbols : List Symbol}
    (paths : ∀ symbol ∈ symbols, Name.isPath symbol.name = true) (line : Nat) :
    OutlineToken.listed (", ".toList.intercalate (symbols.map Symbol.coded)) line =
      (symbols.map fun symbol => symbol.token line, []) := by
  have plain : ∀ code ∈ symbols.map fun symbol => written symbol.name symbol.signature,
      '\x60' ∉ code :=
    List.forall_mem_map.mpr fun symbol known tick =>
      (mem_written (paths symbol known) symbol.signature tick).1 rfl
  obtain ⟨listing, text, codes, fillers⟩ := OutlineToken.exists_listing_intercalate plain
    (List.forall_mem_map.mpr fun symbol known =>
      written_ne_nil (paths symbol known) symbol.signature)
  refine OutlineToken.listed_eq_iff.mpr ⟨listing, ?_, OutlineToken.isIdle_of_all fillers, ?_⟩
  · rw [text, List.map_map]
    rfl
  · rw [codes, List.forall₂_map_left_iff, List.forall₂_map_right_iff, List.forall₂_same]
    exact fun symbol known => ofCode?_written (paths symbol known) symbol.signature line

theorem getLast?_listed {symbols : List Symbol} (nonempty : symbols ≠ []) :
    (", ".toList.intercalate (symbols.map Symbol.coded)).getLast? = some '\x60' := by
  have coded (symbol : Symbol) : symbol.coded.getLast? = some '\x60' := by
    rw [Symbol.coded, ← List.cons_append, List.getLast?_concat]
  induction symbols with
  | nil => exact absurd rfl nonempty
  | cons symbol rest inductionHypothesis =>
    cases rest with
    | nil =>
      rw [List.map_singleton, List.intercalate_singleton]
      exact coded symbol
    | cons next more =>
      have last := inductionHypothesis (by simp)
      have filled : ", ".toList.intercalate ((next :: more).map Symbol.coded) ≠ [] := by
        intro empty
        rw [empty] at last
        cases last
      rw [List.map_cons, List.intercalate_cons_of_ne_nil (by simp),
        getLast?_append_of_ne_nil _ filled, last]

/-- What a category lists, with its label. -/
theorem ofLine?_categoryBullet {category : SymbolKind × List Char} (known : category ∈ categories)
    {symbols : List Symbol} (nonempty : symbols ≠ []) :
    Bullet.ofLine? (categoryBullet category.2 symbols) =
      some ⟨2, category.2 ++ (": ".toList ++
        ", ".toList.intercalate (symbols.map Symbol.coded))⟩ := by
  have last := getLast?_listed nonempty
  have filled : ", ".toList.intercalate (symbols.map Symbol.coded) ≠ [] := by
    intro empty
    rw [empty] at last
    cases last
  have ends : dropRightWhile isBlank (category.2 ++ (": ".toList ++
      ", ".toList.intercalate (symbols.map Symbol.coded))) =
      category.2 ++ (": ".toList ++ ", ".toList.intercalate (symbols.map Symbol.coded)) := by
    refine dropRightWhile_of_getLast? fun character member => ?_
    rw [← List.append_assoc, getLast?_append_of_ne_nil _ filled, last] at member
    cases member
    rfl
  have shape : Bullet.ofLine? (categoryBullet category.2 symbols) =
      some ⟨2, dropRightWhile isBlank (category.2 ++ (": ".toList ++
        ", ".toList.intercalate (symbols.map Symbol.coded)))⟩ := by
    simp only [categories, List.mem_cons, List.not_mem_nil, or_false] at known
    rcases known with rfl | rfl | rfl | rfl <;> rfl
  rw [shape, ends]

/-- The label of a category is found again, with what stands behind it. -/
theorem category?_listed {category : SymbolKind × List Char} (known : category ∈ categories)
    {symbols : List Symbol} (nonempty : symbols ≠ []) :
    Bullet.category? (category.2 ++ (": ".toList ++
        ", ".toList.intercalate (symbols.map Symbol.coded))) =
      some (category.2, ", ".toList.intercalate (symbols.map Symbol.coded)) := by
  have begins : ∃ rest, ", ".toList.intercalate (symbols.map Symbol.coded) = '\x60' :: rest := by
    cases symbols with
    | nil => exact absurd rfl nonempty
    | cons symbol rest =>
      cases rest with
      | nil => exact ⟨_, List.intercalate_singleton⟩
      | cons next more => exact ⟨_, List.intercalate_cons_cons⟩
  obtain ⟨rest, same⟩ := begins
  rw [same]
  simp only [categories, List.mem_cons, List.not_mem_nil, or_false] at known
  rcases known with rfl | rfl | rfl | rfl <;> rfl

theorem categoryKind?_label {category : SymbolKind × List Char} (known : category ∈ categories) :
    trim category.2 = category.2 ∧ Bullet.categoryKind? category.2 = some category.1 := by
  simp only [categories, List.mem_cons, List.not_mem_nil, or_false] at known
  rcases known with rfl | rfl | rfl | rfl <;> exact ⟨by decide, by decide⟩

/-! ### Bullets of modules -/

theorem ofLine?_bullet (module : Module) :
    Bullet.ofLine? module.bullet = some ⟨0, ModuleName.bold module.name⟩ := by
  have written : module.bullet = '-' :: ' ' :: ModuleName.bold module.name := by
    rw [Module.bullet, List.append_assoc]
    rfl
  rw [written]
  exact Bullet.ofLine?_dash (by rintro _ ⟨⟩; rfl) (ModuleName.bold_ends module.name)

end Manual

end LlmTxt

/-
This file reads the items of an Index. The entry of a module is its item with the lines of text
behind it, and the items of its categories with those behind them. Lines are read without a problem
if and only if they are lines of text and then such entries, and what has been read is what the
entries list, in their order. From this follows what it means that the outline of a whole Index has
no problem.
-/

import LlmTxt.Proofs.Outline.Reading

namespace LlmTxt

/-! ### Items -/

/-- A list item with the lines of text behind it. -/
structure Item where
  head : BulletLine
  behind : List TextLine

def Item.lines (item : Item) : List SourceLine :=
  item.head.line :: item.behind.map TextLine.line

def Item.indent (item : Item) : Nat :=
  item.head.bullet.indent

/-- The item of a module with those of its categories. -/
structure Entry where
  module : Item
  categories : List Item

def Entry.items (entry : Entry) : List Item :=
  entry.module :: entry.categories

def Entry.lines (entry : Entry) : List SourceLine :=
  entry.items.flatMap Item.lines

/-- Lines are lines of text and then items. -/
theorem exists_items {lines : List SourceLine} (filled : ∀ line ∈ lines, line.IsFilled) :
    ∃ (front : List TextLine) (items : List Item),
      lines = front.map TextLine.line ++ items.flatMap Item.lines := by
  induction lines with
  | nil => exact ⟨[], [], rfl⟩
  | cons line rest inductionHypothesis =>
    obtain ⟨own, others⟩ := List.forall_mem_cons.mp filled
    obtain ⟨front, items, rfl⟩ := inductionHypothesis others
    by_cases found : ∃ bullet, Bullet.IsWritten line.text.toList bullet
    · obtain ⟨bullet, written⟩ := found
      exact ⟨[], ⟨⟨line, bullet, own, written⟩, front⟩ :: items, rfl⟩
    · exact ⟨⟨line, own, not_exists.mp found⟩ :: front, items, rfl⟩

/-- Items are some that are indented further than a base, and then entries of which the first items
are not. -/
theorem exists_entries (base : Nat) (items : List Item) :
    ∃ (front : List Item) (entries : List Entry), items = front ++ entries.flatMap Entry.items ∧
      (∀ item ∈ front, base < item.indent) ∧ ∀ entry ∈ entries, entry.module.indent ≤ base ∧
        ∀ item ∈ entry.categories, base < item.indent := by
  induction items with
  | nil => exact ⟨[], [], rfl, by simp, by simp⟩
  | cons item rest inductionHypothesis =>
    obtain ⟨front, entries, rfl, deeper, sorted⟩ := inductionHypothesis
    rcases Nat.lt_or_ge base item.indent with below | above
    · exact ⟨item :: front, entries, rfl, List.forall_mem_cons.mpr ⟨below, deeper⟩, sorted⟩
    · exact ⟨[], ⟨item, front⟩ :: entries, rfl, by simp,
        List.forall_mem_cons.mpr ⟨⟨above, deeper⟩, sorted⟩⟩

/-- A list item with the text behind it lists a category. -/
def Item.Lists (item : Item) (category : OutlineCategory) : Prop :=
  ∃ own others, item.head.Begins { category with tokens := own } ∧
    List.Forall₂ TextLine.Lists item.behind others ∧ category.tokens = own ++ others.flatten

/-! ### What items say -/

namespace OutlineReading

variable {last : OutlineReading} {modules front : List OutlineModule} {module : OutlineModule}
  {base : Nat} {categoryIndent : Option Nat} {inModule inCategory : Bool}

/-- Lines of text under the item of a module are passed over. -/
theorem reads_texts_iff {texts : List TextLine} :
    (opened modules base categoryIndent inModule false).Reads (texts.map TextLine.line) last ↔
      (∀ text ∈ texts, base < text.indent) ∧
        last = opened modules base categoryIndent inModule false := by
  induction texts with
  | nil =>
    rw [List.map_nil, reads_nil_iff (isClean_opened _ _ _ _ _)]
    simp
  | cons text rest inductionHypothesis =>
    rw [List.map_cons, reads_cons_iff, List.forall_mem_cons, and_assoc, ← inductionHypothesis]
    simp only [reads_text_iff, and_assoc, exists_and_left, exists_eq_left]

/-- Lines of text under the item of a category go on with its symbols. -/
theorem reads_more_iff {texts : List TextLine} {categories : List OutlineCategory}
    {category : OutlineCategory} :
    (opened (front ++ [{ module with categories := categories ++ [category] }]) base categoryIndent
        inModule true).Reads (texts.map TextLine.line) last ↔
      (∀ text ∈ texts, base < text.indent) ∧ ∃ others, List.Forall₂ TextLine.Lists texts others ∧
        last = opened (front ++ [{ module with categories := categories ++
          [{ category with tokens := category.tokens ++ others.flatten }] }])
          base categoryIndent inModule true := by
  induction texts generalizing category with
  | nil =>
    rw [List.map_nil, reads_nil_iff (isClean_opened _ _ _ _ _)]
    simp
  | cons text rest inductionHypothesis =>
    rw [List.map_cons, reads_cons_iff, List.forall_mem_cons, and_assoc]
    constructor
    · rintro ⟨next, own, more⟩
      obtain ⟨deeper, tokens, lists, rfl⟩ := reads_tokens_iff.mp own
      obtain ⟨restDeeper, others, restLists, rfl⟩ := inductionHypothesis.mp more
      refine ⟨deeper, restDeeper, tokens :: others, .cons lists restLists, ?_⟩
      rw [List.flatten_cons, List.append_assoc]
    · rintro ⟨deeper, restDeeper, _, _ | ⟨lists, restLists⟩, rfl⟩
      refine ⟨_, reads_tokens_iff.mpr ⟨deeper, _, lists, rfl⟩,
        inductionHypothesis.mpr ⟨restDeeper, _, restLists, ?_⟩⟩
      rw [List.flatten_cons, List.append_assoc]

/-- The item of a category adds it with all that is listed under it. -/
theorem reads_item_iff {item : Item} (below : base < item.indent) :
    (opened (front ++ [module]) base categoryIndent true inCategory).Reads item.lines last ↔
      (∀ limit ∈ categoryIndent, item.indent ≤ limit) ∧ (∀ text ∈ item.behind, base < text.indent) ∧
        ∃ category, item.Lists category ∧
          last = opened (front ++ [{ module with categories := module.categories ++ [category] }])
            base (some (categoryIndent.getD item.indent)) true true := by
  rw [Item.lines, reads_cons_iff]
  constructor
  · rintro ⟨next, own, more⟩
    obtain ⟨limited, category, begins, rfl⟩ := (reads_category_iff below).mp own
    obtain ⟨deeper, others, lists, rfl⟩ := reads_more_iff.mp more
    exact ⟨limited, deeper, { category with tokens := category.tokens ++ others.flatten },
      ⟨category.tokens, others, begins, lists, rfl⟩, rfl⟩
  · rintro ⟨limited, deeper, category, ⟨own, others, begins, lists, tokens⟩, rfl⟩
    refine ⟨_, (reads_category_iff below).mpr ⟨limited, _, begins, rfl⟩,
      reads_more_iff.mpr ⟨deeper, others, lists, ?_⟩⟩
    dsimp only
    rw [← tokens]
    rfl

/-- The items of further categories add them. -/
theorem reads_items_iff {items : List Item} (below : ∀ item ∈ items, base < item.indent)
    {limit : Nat} :
    (opened (front ++ [module]) base (some limit) true true).Reads (items.flatMap Item.lines) last ↔
      (∀ item ∈ items, item.indent ≤ limit) ∧
        (∀ item ∈ items, ∀ text ∈ item.behind, base < text.indent) ∧
          ∃ categories, List.Forall₂ Item.Lists items categories ∧
            last = opened (front ++ [{ module with categories := module.categories ++ categories }])
              base (some limit) true true := by
  induction items generalizing module with
  | nil =>
    rw [List.flatMap_nil, reads_nil_iff (isClean_opened _ _ _ _ _)]
    simp
  | cons item rest inductionHypothesis =>
    obtain ⟨ownBelow, restBelow⟩ := List.forall_mem_cons.mp below
    rw [List.flatMap_cons, reads_append_iff]
    constructor
    · rintro ⟨next, own, more⟩
      obtain ⟨limited, deeper, category, lists, rfl⟩ := (reads_item_iff ownBelow).mp own
      obtain ⟨restLimited, restDeeper, categories, restLists, rfl⟩ :=
        (inductionHypothesis restBelow).mp more
      refine ⟨List.forall_mem_cons.mpr ⟨limited limit rfl, restLimited⟩,
        List.forall_mem_cons.mpr ⟨deeper, restDeeper⟩, _, .cons lists restLists, ?_⟩
      rw [List.append_assoc]
      rfl
    · rintro ⟨limited, deeper, _, _ | ⟨lists, restLists⟩, rfl⟩
      obtain ⟨ownLimited, restLimited⟩ := List.forall_mem_cons.mp limited
      obtain ⟨ownDeeper, restDeeper⟩ := List.forall_mem_cons.mp deeper
      refine ⟨_,
        (reads_item_iff ownBelow).mpr ⟨by simpa using ownLimited, ownDeeper, _, lists, rfl⟩,
        (inductionHypothesis restBelow).mpr ⟨restLimited, restDeeper, _, restLists, ?_⟩⟩
      rw [List.append_assoc]
      rfl

/-- The items of the categories of a module add them, and the first sets how far the others may be
indented. -/
theorem reads_categories_iff {items : List Item} (below : ∀ item ∈ items, base < item.indent) :
    (opened (front ++ [module]) base none true false).Reads (items.flatMap Item.lines) last ↔
      (∀ first ∈ items.head?, ∀ item ∈ items, item.indent ≤ first.indent) ∧
        (∀ item ∈ items, ∀ text ∈ item.behind, base < text.indent) ∧
          ∃ categories, List.Forall₂ Item.Lists items categories ∧
            last = opened (front ++ [{ module with categories := module.categories ++ categories }])
              base (items.head?.map Item.indent) true (!items.isEmpty) := by
  cases items with
  | nil =>
    rw [List.flatMap_nil, reads_nil_iff (isClean_opened _ _ _ _ _)]
    simp
  | cons first rest =>
    obtain ⟨ownBelow, restBelow⟩ := List.forall_mem_cons.mp below
    rw [List.flatMap_cons, reads_append_iff]
    constructor
    · rintro ⟨next, own, more⟩
      obtain ⟨_, deeper, category, lists, rfl⟩ := (reads_item_iff ownBelow).mp own
      obtain ⟨limited, restDeeper, categories, restLists, rfl⟩ :=
        (reads_items_iff restBelow).mp more
      refine ⟨?_, List.forall_mem_cons.mpr ⟨deeper, restDeeper⟩, _, .cons lists restLists, ?_⟩
      · rintro _ ⟨⟩
        exact List.forall_mem_cons.mpr ⟨Nat.le_refl _, limited⟩
      · rw [List.append_assoc]
        rfl
    · rintro ⟨limited, deeper, _, _ | ⟨lists, restLists⟩, rfl⟩
      obtain ⟨_, restLimited⟩ := List.forall_mem_cons.mp (limited first rfl)
      obtain ⟨ownDeeper, restDeeper⟩ := List.forall_mem_cons.mp deeper
      refine ⟨_, (reads_item_iff ownBelow).mpr ⟨by rintro _ ⟨⟩, ownDeeper, _, lists, rfl⟩,
        (reads_items_iff restBelow).mpr ⟨restLimited, restDeeper, _, restLists, ?_⟩⟩
      rw [List.append_assoc]
      rfl

end OutlineReading

/-! ### What entries say -/

/-- Items are nested under that of a module: they are indented further than a base, and not further
than the first of them, and the text under the items is indented further than the base. -/
structure Entry.IsNested (base : Nat) (entry : Entry) : Prop where
  above : entry.module.indent ≤ base
  below : ∀ item ∈ entry.categories, base < item.indent
  limited : ∀ first ∈ entry.categories.head?, ∀ item ∈ entry.categories, item.indent ≤ first.indent
  deeper : ∀ item ∈ entry.items, ∀ text ∈ item.behind, base < text.indent

/-- An entry is read as a module with categories. -/
structure Entry.Lists (base : Nat) (entry : Entry) (module : OutlineModule) : Prop where
  nested : entry.IsNested base
  opens : entry.module.head.Opens { module with categories := [] }
  lists : List.Forall₂ Item.Lists entry.categories module.categories

namespace OutlineReading

variable {last : OutlineReading} {modules : List OutlineModule} {base : Nat}
  {categoryIndent : Option Nat} {inModule inCategory : Bool}

theorem reads_entry_iff {entry : Entry} (above : entry.module.indent ≤ base)
    (below : ∀ item ∈ entry.categories, base < item.indent) :
    (opened modules base categoryIndent inModule inCategory).Reads entry.lines last ↔
      ∃ module, entry.Lists base module ∧ last = opened (modules ++ [module]) base
        (entry.categories.head?.map Item.indent) true (!entry.categories.isEmpty) := by
  rw [Entry.lines, Entry.items, List.flatMap_cons, Item.lines, List.cons_append, reads_cons_iff]
  simp only [reads_append_iff, reads_module_iff above]
  constructor
  · rintro ⟨_, ⟨module, opens, rfl⟩, next, texts, more⟩
    obtain ⟨deeper, rfl⟩ := reads_texts_iff.mp texts
    obtain ⟨limited, restDeeper, categories, lists, rfl⟩ := (reads_categories_iff below).mp more
    obtain ⟨_, _, _, noCategories⟩ := id opens
    obtain ⟨name, line, formatted, own⟩ := module
    cases noCategories
    exact ⟨⟨name, line, formatted, categories⟩, ⟨⟨above, below, limited,
      List.forall_mem_cons.mpr ⟨deeper, restDeeper⟩⟩, opens, lists⟩, rfl⟩
  · rintro ⟨module, said, rfl⟩
    obtain ⟨deeper, restDeeper⟩ := List.forall_mem_cons.mp said.nested.deeper
    exact ⟨_, ⟨_, said.opens, rfl⟩, _, reads_texts_iff.mpr ⟨deeper, rfl⟩,
      (reads_categories_iff below).mpr ⟨said.nested.limited, restDeeper, _, said.lists, rfl⟩⟩

/-- Entries are read to the modules that they list. -/
theorem reads_entries_iff {entries : List Entry} {all : List OutlineModule}
    (sorted : ∀ entry ∈ entries, entry.module.indent ≤ base ∧
      ∀ item ∈ entry.categories, base < item.indent) :
    (∃ last, (opened modules base categoryIndent inModule inCategory).Reads
        (entries.flatMap Entry.lines) last ∧ last.modules.toList = all) ↔
      ∃ listed, List.Forall₂ (Entry.Lists base) entries listed ∧ all = modules ++ listed := by
  induction entries generalizing modules categoryIndent inModule inCategory with
  | nil =>
    rw [List.flatMap_nil]
    simp only [reads_nil_iff (isClean_opened _ _ _ _ _), exists_eq_left, List.forall₂_nil_left_iff,
      List.append_nil]
    exact eq_comm
  | cons entry rest inductionHypothesis =>
    obtain ⟨⟨above, below⟩, others⟩ := List.forall_mem_cons.mp sorted
    rw [List.flatMap_cons]
    constructor
    · rintro ⟨last, reads, modules_eq⟩
      obtain ⟨next, own, more⟩ := reads_append_iff.mp reads
      obtain ⟨module, said, rfl⟩ := (reads_entry_iff above below).mp own
      obtain ⟨listed, restSaid, rfl⟩ := (inductionHypothesis others).mp ⟨last, more, modules_eq⟩
      exact ⟨module :: listed, .cons said restSaid, List.append_assoc _ _ _⟩
    · rintro ⟨_, said, rfl⟩
      obtain ⟨module, listed, own, restSaid, rfl⟩ := List.forall₂_cons_left_iff.mp said
      obtain ⟨last, reads, modules_eq⟩ := (inductionHypothesis others).mpr
        ⟨listed, restSaid, (List.append_cons modules module listed)⟩
      refine ⟨last, reads_append_iff.mpr
        ⟨_, (reads_entry_iff above below).mpr ⟨module, own, rfl⟩, reads⟩, ?_⟩
      exact modules_eq

/-! ### The lines before the first item -/

/-- Text before the first item is passed over. -/
theorem reads_front {front : List TextLine} :
    start.Reads (front.map TextLine.line) start := by
  refine ⟨?_, rfl⟩
  induction front with
  | nil => rfl
  | cons text rest inductionHypothesis =>
    rw [List.map_cons, List.foldl_cons, readLine_text]
    exact inductionHypothesis

/-- The first item sets how far the items of modules may be indented. -/
theorem reads_start_cons_iff {head : BulletLine} {rest : List SourceLine} :
    start.Reads (head.line :: rest) last ↔
      (opened [] head.bullet.indent none false false).Reads (head.line :: rest) last := by
  have same : start.readLine head.line =
      (opened [] head.bullet.indent none false false).readLine head.line := by
    rw [readLine_bullet, readLine_bullet]
    rfl
  constructor
  · rintro ⟨run, clean⟩
    exact ⟨by rw [List.foldl_cons, ← same, ← List.foldl_cons, run], clean⟩
  · rintro ⟨run, clean⟩
    exact ⟨by rw [List.foldl_cons, same, ← List.foldl_cons, run], clean⟩

end OutlineReading

/-! ### Whole outlines -/

/-- Lines are a list of modules: lines of text, and then an entry for each of the modules, of which
there is one at least. -/
def OutlineModule.AreListed (modules : List OutlineModule) (lines : List SourceLine) : Prop :=
  ∃ (front : List TextLine) (first : Entry) (more : List Entry),
    lines = front.map TextLine.line ++ (first :: more).flatMap Entry.lines ∧
      List.Forall₂ (Entry.Lists first.module.indent) (first :: more) modules

/-- Items are entries, of which the items of modules are those that are not indented further than
the first. -/
theorem exists_entries_cons (item : Item) (rest : List Item) :
    ∃ (first : Entry) (more : List Entry), item :: rest = (first :: more).flatMap Entry.items ∧
      first.module = item ∧ ∀ entry ∈ first :: more, entry.module.indent ≤ item.indent ∧
        ∀ other ∈ entry.categories, item.indent < other.indent := by
  obtain ⟨front, entries, split, deeper, sorted⟩ := exists_entries item.indent (item :: rest)
  cases front with
  | cons other more =>
    obtain ⟨rfl, _⟩ := List.cons.inj split
    exact absurd (deeper item List.mem_cons_self) (Nat.lt_irrefl _)
  | nil =>
    cases entries with
    | nil => cases split
    | cons first more => exact ⟨first, more, split, (List.cons.inj split).1.symm, sorted⟩

theorem flatMap_items_lines (entries : List Entry) :
    (entries.flatMap Entry.items).flatMap Item.lines = entries.flatMap Entry.lines :=
  List.flatMap_assoc

namespace OutlineReading

variable {reading last : OutlineReading} {modules : List OutlineModule}

/-- Lines outside code, none of them blank, are read to modules if and only if they list them. -/
theorem reads_start_iff {lines : List SourceLine} (filled : ∀ line ∈ lines, line.IsFilled) :
    (modules ≠ [] ∧ ∃ last, start.Reads lines last ∧ last.modules.toList = modules) ↔
      OutlineModule.AreListed modules lines := by
  constructor
  · rintro ⟨nonempty, last, reads, modules_eq⟩
    obtain ⟨front, items, rfl⟩ := exists_items filled
    obtain ⟨next, before, reads⟩ := reads_append_iff.mp reads
    cases before.run.symm.trans reads_front.run
    cases items with
    | nil =>
      cases (reads_nil_iff before.clean).mp reads
      exact absurd modules_eq.symm nonempty
    | cons item rest =>
      obtain ⟨first, more, split, rfl, sorted⟩ := exists_entries_cons item rest
      rw [split, flatMap_items_lines] at reads ⊢
      obtain ⟨listed, said, rfl⟩ := (reads_entries_iff sorted).mp
        ⟨last, reads_start_cons_iff.mp reads, modules_eq⟩
      exact ⟨front, first, more, rfl, said⟩
  · rintro ⟨front, first, more, rfl, said⟩
    have sorted : ∀ entry ∈ first :: more, entry.module.indent ≤ first.module.indent ∧
        ∀ item ∈ entry.categories, first.module.indent < item.indent :=
      ((List.forall₂_and_left _ _).mp
        (said.imp fun entry module lists => ⟨⟨lists.nested.above, lists.nested.below⟩, lists⟩)).1
    obtain ⟨last, reads, modules_eq⟩ :
        ∃ last, (opened [] first.module.indent none false false).Reads
          ((first :: more).flatMap Entry.lines) last ∧ last.modules.toList = modules :=
      (reads_entries_iff sorted).mpr ⟨modules, said, rfl⟩
    refine ⟨?_, last, reads_append_iff.mpr ⟨start, reads_front, reads_start_cons_iff.mpr reads⟩,
      modules_eq⟩
    rintro rfl
    cases said

end OutlineReading

namespace Outline

theorem closingProblems_eq_nil_iff {modules : List OutlineModule} {headingLine : Nat} :
    closingProblems modules headingLine = [] ↔
      (∀ module ∈ modules, module.categories ≠ []) ∧ modules ≠ [] := by
  unfold closingProblems
  dsimp only
  rw [List.append_eq_nil_iff, List.map_eq_nil_iff, List.filter_eq_nil_iff]
  simp

/-- The outline of an Index has no problem if and only if there is no code in it, and its lines list
modules, of which each has categories. -/
theorem ofSection_eq_iff {index : Section} {modules : List OutlineModule} :
    ofSection index = ⟨modules, []⟩ ↔
      (∀ line ∈ index.lines, line.inCode = false) ∧
        OutlineModule.AreListed modules (index.lines.filter (!·.isBlank)) ∧
          ∀ module ∈ modules, module.categories ≠ [] := by
  have filled (noCode : ∀ line ∈ index.lines, line.inCode = false) :
      ∀ line ∈ index.lines.filter (!·.isBlank), line.IsFilled := by
    intro line member
    obtain ⟨known, filled⟩ := List.mem_filter.mp member
    exact ⟨noCode line known, by simpa using filled⟩
  constructor
  · intro same
    obtain ⟨rfl, noProblem⟩ := Outline.mk.inj same
    obtain ⟨clean, closing⟩ := List.append_eq_nil_iff.mp noProblem
    obtain ⟨nonempty, notEmpty⟩ := closingProblems_eq_nil_iff.mp closing
    obtain ⟨noCode, reads⟩ := (OutlineReading.reads_filter_iff rfl).mp
      ⟨rfl, congrArg List.toArray clean⟩
    exact ⟨noCode, (OutlineReading.reads_start_iff (filled noCode)).mp ⟨notEmpty, _, reads, rfl⟩,
      nonempty⟩
  · rintro ⟨noCode, listed, nonempty⟩
    obtain ⟨notEmpty, last, reads, rfl⟩ :=
      (OutlineReading.reads_start_iff (filled noCode)).mpr listed
    have whole := (OutlineReading.reads_filter_iff rfl).mpr ⟨noCode, reads⟩
    unfold ofSection
    dsimp only
    rw [whole.run, closingProblems_eq_nil_iff.mpr ⟨nonempty, notEmpty⟩, whole.clean]
    rfl

end Outline

end LlmTxt

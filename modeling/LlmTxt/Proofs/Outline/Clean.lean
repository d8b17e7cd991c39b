/-
This file says what stands in an Index if its outline has no problem, in terms of the text alone.
There is no fenced code. The list items are those of modules, each with a name that is formatted,
and under each of them those of its categories, each with a label that is known. What is listed is
what stands between backticks, in the item of the category and on the lines of text behind it.

What stands around the backticks is separators with perhaps a mark for an empty category, but only
when all of it is put together. The reader cuts the codes out and joins the pieces, so pieces that
are neither can be a mark in sum.
-/

import LlmTxt.Proofs.Outline.Written

namespace LlmTxt

open Text

/-! ### What is written -/

/-- A text lists symbols: it is cut into codes that name them, and around the codes, put together,
are separators with perhaps a mark that says that there are none. -/
def OutlineToken.AreNamed (tokens : List OutlineToken) (text : List Char) (line : Nat) : Prop :=
  ∃ listing : Listing, listing.text = text ∧ OutlineToken.IsIdle listing.around ∧
    List.Forall₂ (fun code token => OutlineToken.Names code line token) listing.codes tokens

/-- A list item begins with the formatted name of a module. -/
structure BulletLine.NamesModule (head : BulletLine) (module : OutlineModule) : Prop where
  named : ModuleName.Begins head.bullet.content module.name.toList
  formatted : module.formatted = true
  line_eq : module.line = head.line.number

/-- A list item begins with a label that is known, and goes on with a text. -/
structure BulletLine.NamesCategory (head : BulletLine) (category : OutlineCategory)
    (rest : List Char) : Prop where
  labelled : Bullet.IsLabelled head.bullet.content category.label.toList rest
  known : category.kind.IsLabel category.label.toList
  line_eq : category.line = head.line.number

/-- A list item with the lines of text behind it shows a category: it begins with the label, and the
symbols are those that it names and those that each of the lines names, in this order. -/
structure Item.Shows (item : Item) (category : OutlineCategory) : Prop where
  named : ∃ rest own others, item.head.NamesCategory category rest ∧
    OutlineToken.AreNamed own rest item.head.line.number ∧
    List.Forall₂ (fun text tokens =>
      OutlineToken.AreNamed tokens text.line.text.toList text.line.number) item.behind others ∧
    category.tokens = own ++ others.flatten

/-- An entry shows a module with its categories, one for each of the items under its own. -/
structure Entry.Shows (base : Nat) (entry : Entry) (module : OutlineModule) : Prop where
  nested : entry.IsNested base
  named : entry.module.head.NamesModule module
  categories : List.Forall₂ Item.Shows entry.categories module.categories

/-- An Index shows modules: there is no code in it, and the lines that are not blank are lines of
text and then an entry for each module, where the first item sets the indentation of the modules.
Each module has categories. -/
structure Section.Shows (index : Section) (modules : List OutlineModule) : Prop where
  noCode : ∀ line ∈ index.lines, line.inCode = false
  entries : ∃ (front : List TextLine) (first : Entry) (more : List Entry),
    index.lines.filter (!·.isBlank) =
      front.map TextLine.line ++ (first :: more).flatMap Entry.lines ∧
    List.Forall₂ (Entry.Shows first.module.indent) (first :: more) modules
  nonempty : ∀ module ∈ modules, module.categories ≠ []

/-! ### From what is read to what is written -/

theorem OutlineToken.areNamed_of_listed {tokens : List OutlineToken} {text : List Char} {line : Nat}
    (read : listed text line = (tokens, [])) : AreNamed tokens text line := by
  obtain ⟨listing, text_eq, idle, codes⟩ := listed_eq_iff.mp read
  exact ⟨listing, text_eq, idle, codes.imp fun _ _ => names_of_ofCode?⟩

theorem BulletLine.namesModule_of_opens {head : BulletLine} {module : OutlineModule}
    {categories : List OutlineCategory}
    (opens : head.Opens { module with categories := categories }) :
    head.NamesModule module := by
  obtain ⟨found, formatted, line, _⟩ := opens
  exact ⟨ModuleName.begins_of_moduleName? found, formatted, line⟩

theorem BulletLine.exists_of_begins {head : BulletLine} {category : OutlineCategory}
    (begins : head.Begins category) :
    ∃ rest, head.NamesCategory category rest ∧
      OutlineToken.AreNamed category.tokens rest head.line.number := by
  obtain ⟨found, rest, read, label, kind, listed⟩ := begins.labelled
  obtain ⟨labelled, ascii⟩ := Bullet.isLabelled_of_category? read
  have known := (Bullet.categoryKind?_eq_some_iff ascii).mp kind
  have characters : category.label.toList = trim found := by rw [label, String.toList_ofList]
  refine ⟨rest, ⟨?_, ?_, begins.line_eq⟩, OutlineToken.areNamed_of_listed listed⟩
  · rwa [characters]
  · rwa [characters]

theorem Item.shows_of_lists {item : Item} {category : OutlineCategory}
    (lists : item.Lists category) : item.Shows category := by
  obtain ⟨own, others, begins, texts, tokens⟩ := lists
  obtain ⟨rest, named, ownNamed⟩ := BulletLine.exists_of_begins begins
  exact ⟨rest, own, others, ⟨named.labelled, named.known, named.line_eq⟩, ownNamed,
    texts.imp fun _ _ => OutlineToken.areNamed_of_listed, tokens⟩

/-- An Index whose outline has no problem shows the modules of the outline. -/
theorem Outline.shows_of_clean {index : Section} (clean : (ofSection index).problems = []) :
    index.Shows (ofSection index).modules := by
  have whole : ofSection index = ⟨(ofSection index).modules, []⟩ := by rw [← clean]
  obtain ⟨noCode, ⟨front, first, more, lines, lists⟩, nonempty⟩ := ofSection_eq_iff.mp whole
  have shown : List.Forall₂ (Entry.Shows first.module.indent) (first :: more)
      (ofSection index).modules :=
    lists.imp fun entry module said => ⟨said.nested, BulletLine.namesModule_of_opens said.opens,
      said.lists.imp fun _ _ => Item.shows_of_lists⟩
  exact ⟨noCode, ⟨front, first, more, lines, shown⟩, nonempty⟩

namespace Outline

theorem shows_of_clean_sample :
    (ofSection WrittenIndex.sampleIndex).problems = [] ∧
      WrittenIndex.sampleIndex.Shows (ofSection WrittenIndex.sampleIndex).modules := by
  have whole : ofSection WrittenIndex.sampleIndex = ⟨WrittenIndex.sample.outline, []⟩ :=
    ofSection_eq_iff.mpr ⟨by decide, WrittenIndex.sample.areListed,
      WrittenIndex.sample.categories_ne_nil⟩
  have clean : (ofSection WrittenIndex.sampleIndex).problems = [] := by rw [whole]
  exact ⟨clean, shows_of_clean clean⟩

/-! ### Pieces that are a mark in sum -/

/-- Each of the pieces around the codes of a text is separators, with perhaps a mark that says that
there are no symbols. -/
def AreSetApart (text : List Char) : Prop :=
  ∃ listing : Listing, listing.text = text ∧ OutlineToken.IsIdle listing.front ∧
    ∀ span ∈ listing.spans, OutlineToken.IsIdle span.behind

/-- A section in which a symbol stands inside a word. -/
def gluedIndex : Section where
  kind := .index
  title := "Index"
  level := 2
  moduleName := none
  span := ⟨1, 3, none⟩
  lines := [⟨2, "- **m**", false⟩, ⟨3, "  - Classes: n\x60A\x60one", false⟩]
  headings := []
  codeBlocks := []

/-- Text on both sides of a symbol is not noted if it would be a mark without the symbol. -/
theorem glued_text_is_not_noted :
    (ofSection gluedIndex).problems = [] ∧
      ∃ line ∈ gluedIndex.lines, ∃ bullet rest, Bullet.IsWritten line.text.toList bullet ∧
        Bullet.IsLabelled bullet.content "Classes".toList rest ∧ ¬AreSetApart rest := by
  have whole : ofSection gluedIndex = ⟨WrittenIndex.glued.outline, []⟩ :=
    ofSection_eq_iff.mpr ⟨by decide, WrittenIndex.glued.areListed,
      WrittenIndex.glued.categories_ne_nil⟩
  have apart : ¬AreSetApart "n\x60A\x60one".toList := by
    rintro ⟨listing, text, front, _⟩
    have own := listing.takeWhile_text
    rw [text] at own
    rw [← own] at front
    cases OutlineToken.leftover?_eq_none_iff.mpr front
  refine ⟨by rw [whole], _, List.mem_cons_of_mem _ List.mem_cons_self,
    ⟨2, "Classes: n\x60A\x60one".toList⟩, "n\x60A\x60one".toList, ?_, ?_, apart⟩
  · exact Bullet.ofLine?_eq_some_iff.mp rfl
  · exact ⟨[], [], [], [], [], [' '], rfl, List.all_eq_true.mp rfl, List.all_eq_true.mp rfl⟩

end Outline

end LlmTxt

/-
This file writes the list of an Index in the ways that a document may: with any of the three marks
for the items, with any format for the names of the modules, with the labels in any letter case and
with or without emphasis, and with the symbols on the line of the category or on lines of text
behind it. Each part of the list carries what makes it well formed, and is read back as the part
that is meant. So the outline of an Index in which such a list stands is that of the list, and has
no problem.
-/

import LlmTxt.Proofs.Outline.Entries

namespace LlmTxt

open Text

/-! ### Symbols -/

/-- A symbol as it is written between backticks: a dotted name and perhaps a signature, with white
space around them. -/
structure ListedSymbol where
  name : List Char
  signature : Option (List Char)
  before : List Char
  between : List Char
  behind : List Char
  path : Name.isPath name = true
  opens : ∀ given ∈ signature, given.head? = some '('
  ends : ∀ given ∈ signature, ∀ last ∈ given.getLast?, isBlank last = false
  blank : ∀ character ∈ before ++ (between ++ behind), isBlank character = true

namespace ListedSymbol

def text (symbol : ListedSymbol) : List Char :=
  symbol.before ++ (symbol.name ++ (symbol.between ++ (symbol.signature.getD [] ++ symbol.behind)))

/-- The symbol as it is listed on a line. -/
def token (symbol : ListedSymbol) (line : Nat) : OutlineToken :=
  ⟨String.ofList symbol.name, symbol.signature.map String.ofList, line⟩

variable (symbol : ListedSymbol)

theorem forall_mem_head?_signature :
    ∀ first ∈ (symbol.signature.getD []).head?, first = '(' := by
  intro first member
  cases given : symbol.signature with
  | none =>
    rw [given] at member
    cases member
  | some text =>
    have opens := symbol.opens text given
    rw [given, Option.getD_some, Option.mem_def, opens] at member
    exact (Option.some.inj member).symm

theorem isApart_or_opens :
    ∀ first ∈ (symbol.between ++ (symbol.signature.getD [] ++ symbol.behind)).head?,
      isBlank first = true ∨ first = '(' := by
  obtain ⟨_, others⟩ := List.forall_mem_append.mp symbol.blank
  obtain ⟨between, behind⟩ := List.forall_mem_append.mp others
  intro first member
  rw [List.head?_append, List.head?_append, Option.mem_def, Option.or_eq_some_iff,
    Option.or_eq_some_iff] at member
  rcases member with own | ⟨_, own | ⟨_, own⟩⟩
  · exact Or.inl (between first (List.mem_of_head? own))
  · exact Or.inr (symbol.forall_mem_head?_signature first own)
  · exact Or.inl (behind first (List.mem_of_head? own))

theorem endsName :
    Name.EndsName (symbol.between ++ (symbol.signature.getD [] ++ symbol.behind)) := by
  intro first member
  rcases symbol.isApart_or_opens first member with blank | rfl
  · refine ⟨isWord_of_isBlank blank, ?_⟩
    rintro rfl
    cases blank
  · exact ⟨by decide, by decide⟩

theorem trim_signature :
    trim (symbol.between ++ (symbol.signature.getD [] ++ symbol.behind)) =
      symbol.signature.getD [] := by
  obtain ⟨_, others⟩ := List.forall_mem_append.mp symbol.blank
  obtain ⟨between, behind⟩ := List.forall_mem_append.mp others
  refine trimBy_of_split between behind ?_ ?_
  · intro first member
    rw [symbol.forall_mem_head?_signature first member]
    rfl
  · intro last member
    cases given : symbol.signature with
    | none =>
      rw [given] at member
      cases member
    | some text =>
      rw [given] at member
      exact symbol.ends text given last member

/-- What is written between backticks is read back. -/
theorem ofCode?_text (line : Nat) :
    OutlineToken.ofCode? symbol.text line = some (symbol.token line) := by
  obtain ⟨before, _⟩ := List.forall_mem_append.mp symbol.blank
  have begins (rest : List Char) :
      ∀ first ∈ (symbol.name ++ rest).head?, isBlank first = false := by
    obtain ⟨first, more, name, isStart, _⟩ := Name.exists_of_isPath symbol.path
    rw [name]
    rintro _ ⟨⟩
    exact isBlank_of_isWord (isWord_of_isNameStart isStart)
  have bare : symbol.text.dropWhile isBlank = symbol.name ++
      (symbol.between ++ (symbol.signature.getD [] ++ symbol.behind)) := by
    rw [text, List.dropWhile_append_of_pos before, dropWhile_of_head? (begins _)]
  unfold OutlineToken.ofCode?
  rw [bare, Name.takePath?_append symbol.path symbol.endsName]
  dsimp only
  rw [symbol.trim_signature]
  cases given : symbol.signature with
  | none => simp [token, given]
  | some text =>
    have nonempty : text ≠ [] := by
      rintro rfl
      cases symbol.opens [] given
    simp [token, given, nonempty]

end ListedSymbol

/-- Symbols between backticks, around which there are commas and the like, or a mark that says that
there are none. -/
structure SymbolList where
  listing : Listing
  symbols : List ListedSymbol
  codes_eq : listing.codes = symbols.map ListedSymbol.text
  idle : OutlineToken.IsIdle listing.around

namespace SymbolList

variable (list : SymbolList)

def text : List Char :=
  list.listing.text

def tokens (line : Nat) : List OutlineToken :=
  list.symbols.map (·.token line)

/-- The symbols of a list are read back. -/
theorem listed_text (line : Nat) : OutlineToken.listed list.text line = (list.tokens line, []) := by
  refine OutlineToken.listed_eq_iff.mpr ⟨list.listing, rfl, list.idle, ?_⟩
  rw [list.codes_eq, tokens, List.forall₂_map_left_iff, List.forall₂_map_right_iff,
    List.forall₂_same]
  exact fun symbol _ => symbol.ofCode?_text line

theorem not_isEmphasis_head? :
    ∀ first ∈ list.text.head?, Bullet.isEmphasis first = false := by
  have idle : ∀ character ∈ list.listing.around, Bullet.isEmphasis character = false := by
    intro character member
    refine Bool.eq_false_iff.mpr fun mark => ?_
    rcases Bool.or_eq_true_iff.mp mark with star | score
    · rw [eq_of_beq star] at member
      exact absurd member (list.idle.notMem rfl rfl rfl (by decide))
    · rw [eq_of_beq score] at member
      exact absurd member (list.idle.notMem rfl rfl rfl (by decide))
  intro first member
  rw [text, Listing.text, List.head?_append, Option.mem_def, Option.or_eq_some_iff] at member
  rcases member with inFront | ⟨_, inSpans⟩
  · exact idle first (List.mem_append_left _ (List.mem_of_head? inFront))
  · cases spans : list.listing.spans with
    | nil =>
      rw [spans] at inSpans
      cases inSpans
    | cons span rest =>
      rw [spans] at inSpans
      cases inSpans
      rfl

end SymbolList

/-- A line of text that goes on with the symbols of a category. -/
structure MoreSymbols (base : Nat) where
  number : Nat
  list : SymbolList
  filled : isAllBlank list.text = false
  noBullet : ∀ bullet, ¬Bullet.IsWritten list.text bullet
  deeper : base < proseIndent list.text

namespace MoreSymbols

variable {base : Nat} (more : MoreSymbols base)

def line : TextLine where
  line := ⟨more.number, String.ofList more.list.text, false⟩
  filled := ⟨rfl, by rw [SourceLine.isBlank, String.toList_ofList, more.filled]⟩
  noBullet := by
    rw [String.toList_ofList]
    exact more.noBullet

def tokens : List OutlineToken :=
  more.list.tokens more.number

theorem lists : more.line.Lists more.tokens := by
  unfold TextLine.Lists
  rw [line, String.toList_ofList]
  exact more.list.listed_text more.number

theorem deeper_line : base < more.line.indent := by
  rw [TextLine.indent, line, String.toList_ofList]
  exact more.deeper

end MoreSymbols

/-! ### List items -/

theorem indentWidth_spaces (count : Nat) : indentWidth (List.replicate count ' ') = count := by
  induction count with
  | zero => rfl
  | succ count inductionHypothesis =>
    rw [List.replicate_succ, indentWidth, List.foldr_cons]
    show 1 + indentWidth (List.replicate count ' ') = count + 1
    rw [inductionHypothesis, Nat.add_comm]

/-- The number of a line with a list item, and the mark of the item with the gap behind it. -/
structure ItemMark where
  number : Nat
  mark : Char
  gap : List Char
  isMark : Bullet.isMark mark = true
  gap_ne_nil : gap ≠ []
  isGap : ∀ character ∈ gap, isGap character = true

namespace ItemMark

/-- A mark with one space behind it. -/
def spaced (number : Nat) (mark : Char) (isMark : Bullet.isMark mark = true) : ItemMark :=
  ⟨number, mark, [' '], isMark, List.cons_ne_nil _ _, List.all_eq_true.mp rfl⟩

variable (item : ItemMark) (indent : Nat) {content : List Char}

def text (content : List Char) : List Char :=
  List.replicate indent ' ' ++ item.mark :: (item.gap ++ content)

/-- The line of the item, indented by spaces. -/
def line (content : List Char) : SourceLine :=
  ⟨item.number, String.ofList (item.text indent content), false⟩

/-- The line is a list item. -/
def head (content : List Char) (begins : ∀ first ∈ content.head?, Text.isGap first = false) :
    BulletLine where
  line := item.line indent content
  bullet := ⟨indent, dropRightWhile isBlank content⟩
  filled := by
    refine ⟨rfl, ?_⟩
    have noBlank : isBlank item.mark = false := by
      have isMark := item.isMark
      simp only [Bullet.isMark, Bool.or_eq_true, beq_iff_eq] at isMark
      rcases isMark with (same | same) | same <;> rw [same] <;> rfl
    rw [SourceLine.isBlank, line, String.toList_ofList, text, isAllBlank, List.all_append,
      List.all_cons, noBlank, Bool.false_and, Bool.and_false]
  isBullet := by
    rw [line, String.toList_ofList]
    refine ⟨List.replicate indent ' ', item.mark, item.gap, content, rfl, ?_, item.isMark,
      item.gap_ne_nil, item.isGap, begins, ?_⟩
    · intro character member
      rw [List.eq_of_mem_replicate member]
      rfl
    · rw [indentWidth_spaces]

end ItemMark

/-! ### Categories -/

/-- A category as it is written: the label, perhaps with emphasis before it and on both sides of the
colon, the symbols on the line of the list item, and those on lines of text behind it. -/
structure WrittenCategory (base : Nat) where
  item : ItemMark
  kind : SymbolKind
  lead : List Char
  label : List Char
  inner : List Char
  blanks : List Char
  outer : List Char
  list : SymbolList
  more : List (MoreSymbols base)
  isLabel : kind.IsLabel label
  emphasis : ∀ character ∈ lead ++ (inner ++ outer), Bullet.isEmphasis character = true
  blank : ∀ character ∈ blanks, isBlank character = true

namespace WrittenCategory

variable {base : Nat} (category : WrittenCategory base)

def content : List Char :=
  category.lead ++ (category.label ++ (category.inner ++ (category.blanks ++
    ':' :: (category.outer ++ category.list.text))))

/-- The category that is meant. -/
def outline : OutlineCategory :=
  ⟨String.ofList category.label, category.kind, category.item.number,
    category.list.tokens category.item.number ++ (category.more.map MoreSymbols.tokens).flatten⟩

theorem begins : ∀ first ∈ category.content.head?, isGap first = false := by
  obtain ⟨lead, _⟩ := List.forall_mem_append.mp category.emphasis
  have letters := Bullet.isAlpha_of_isLabel category.isLabel
  intro first member
  rw [content, List.head?_append, Option.mem_def, Option.or_eq_some_iff] at member
  rcases member with inLead | ⟨_, inLabel⟩
  · exact isGap_of_isBlank (Bullet.isBlank_of_isEmphasis (lead first (List.mem_of_head? inLead)))
  · rw [List.head?_append_of_ne_nil _ (Bullet.ne_nil_of_isLabel category.isLabel)] at inLabel
    exact isGap_of_isBlank (isBlank_of_isAlpha (letters first (List.mem_of_head? inLabel)))

/-- The list item of the category with the lines of text behind it. -/
def entry (indent : Nat) : Item :=
  ⟨category.item.head indent category.content category.begins, category.more.map MoreSymbols.line⟩

/-- The label is read with the list of the symbols. -/
theorem category?_content :
    Bullet.category? (dropRightWhile isBlank category.content) =
      some (category.label, trim category.list.text) := by
  obtain ⟨lead, behindLead⟩ := List.forall_mem_append.mp category.emphasis
  obtain ⟨inner, outer⟩ := List.forall_mem_append.mp behindLead
  have ends : ∀ last ∈ (category.lead ++ (category.label ++ (category.inner ++ (category.blanks ++
      ':' :: category.outer)))).getLast?, isBlank last = false := by
    intro last member
    simp only [← List.append_assoc] at member
    rw [getLast?_append_of_ne_nil _ (List.cons_ne_nil _ _)] at member
    rcases List.mem_cons.mp (List.mem_of_getLast? member) with rfl | inOuter
    · rfl
    · exact Bullet.isBlank_of_isEmphasis (outer last inOuter)
  have joined (rest : List Char) : category.lead ++ (category.label ++ (category.inner ++
      (category.blanks ++ ':' :: (category.outer ++ rest)))) =
      category.lead ++ (category.label ++ (category.inner ++ (category.blanks ++
        ':' :: category.outer))) ++ rest := by
    simp only [List.append_assoc, List.cons_append]
  rw [content, joined, dropRightWhile_append_of_ends ends, ← joined,
    Bullet.category?_append category.emphasis category.blank
      (Bullet.isAlpha_of_isLabel category.isLabel) (Bullet.ne_nil_of_isLabel category.isLabel),
    dropWhile_dropRightWhile]
  · rfl
  · exact fun first member => category.list.not_isEmphasis_head? first
      (head?_of_head?_dropRightWhile member)

/-- A category is read back. -/
theorem lists (indent : Nat) : (category.entry indent).Lists category.outline := by
  have letters := Bullet.isAlpha_of_isLabel category.isLabel
  have trimmed : trim category.label = category.label :=
    trimBy_of_ends
      (fun first member => isBlank_of_isAlpha (letters first (List.mem_of_head? member)))
      fun last member => isBlank_of_isAlpha (letters last (List.mem_of_getLast? member))
  refine ⟨category.list.tokens category.item.number, category.more.map MoreSymbols.tokens,
    ⟨rfl, category.label, trim category.list.text, category.category?_content, ?_, ?_, ?_⟩, ?_, rfl⟩
  · rw [trimmed]
    rfl
  · rw [trimmed]
    exact Bullet.categoryKind?_of_isLabel category.isLabel
  · rw [OutlineToken.listed_trim]
    exact category.list.listed_text category.item.number
  · rw [entry, List.forall₂_map_left_iff, List.forall₂_map_right_iff, List.forall₂_same]
    exact fun more _ => more.lists

end WrittenCategory

/-! ### Modules -/

/-- A module as it is written: the name in one of the formats, perhaps with a description behind it,
and the categories, which are indented alike. -/
structure WrittenModule (base : Nat) where
  item : ItemMark
  name : List Char
  marked : List Char
  description : List Char
  indent : Nat
  categories : List (WrittenCategory base)
  path : Name.isPath name = true
  formatted : ModuleName.IsFormatted name marked
  apart : ModuleName.IsApart description
  below : base < indent
  nonempty : categories ≠ []

namespace WrittenModule

variable {base : Nat} (module : WrittenModule base)

def content : List Char :=
  module.marked ++ module.description

/-- The module that is meant. -/
def outline : OutlineModule :=
  ⟨String.ofList module.name, module.item.number, true,
    module.categories.map WrittenCategory.outline⟩

theorem begins : ∀ first ∈ module.content.head?, isGap first = false := by
  have nonempty : module.marked ≠ [] := by
    have formatted := module.formatted
    intro empty
    rw [empty] at formatted
    cases formatted
  rw [content, List.head?_append_of_ne_nil _ nonempty]
  exact ModuleName.head?_of_isFormatted module.formatted

/-- The list item of the module with those of its categories. -/
def entry : Entry :=
  ⟨⟨module.item.head base module.content module.begins, []⟩,
    module.categories.map (WrittenCategory.entry · module.indent)⟩

theorem moduleName?_content :
    Bullet.moduleName? (dropRightWhile isBlank module.content) = some (module.name, true) := by
  have apart : ModuleName.IsApart (dropRightWhile isBlank module.description) :=
    fun first member => module.apart first (head?_of_head?_dropRightWhile member)
  rw [content, dropRightWhile_append_of_ends (ModuleName.getLast?_of_isFormatted module.formatted)]
  exact ModuleName.moduleName?_of_isFormatted module.path module.formatted apart

theorem isNested : module.entry.IsNested base where
  above := Nat.le_refl base
  below := by
    intro item member
    obtain ⟨category, _, rfl⟩ := List.mem_map.mp member
    exact module.below
  limited := by
    intro first isFirst item member
    obtain ⟨category, _, rfl⟩ := List.mem_map.mp (List.mem_of_head? isFirst)
    obtain ⟨other, _, rfl⟩ := List.mem_map.mp member
    exact Nat.le_refl module.indent
  deeper := by
    intro item member text behind
    rcases List.mem_cons.mp member with rfl | inner
    · cases behind
    · obtain ⟨category, _, rfl⟩ := List.mem_map.mp inner
      obtain ⟨more, _, rfl⟩ := List.mem_map.mp behind
      exact more.deeper_line

/-- A module is read back with its categories. -/
theorem lists : module.entry.Lists base module.outline := by
  refine ⟨module.isNested, ⟨?_, rfl, rfl, rfl⟩, ?_⟩
  · rw [outline, String.toList_ofList]
    exact module.moduleName?_content
  · rw [entry, outline, List.forall₂_map_left_iff, List.forall₂_map_right_iff, List.forall₂_same]
    exact fun category _ => category.lists module.indent

end WrittenModule

/-! ### Lists of modules -/

/-- The list of an Index as it is written: any lines of text, and then the modules, which are
indented alike. -/
structure WrittenIndex where
  base : Nat
  front : List TextLine
  modules : List (WrittenModule base)
  nonempty : modules ≠ []

namespace WrittenIndex

variable (written : WrittenIndex)

def lines : List SourceLine :=
  written.front.map TextLine.line ++
    (written.modules.map WrittenModule.entry).flatMap Entry.lines

/-- The modules that are meant. -/
def outline : List OutlineModule :=
  written.modules.map WrittenModule.outline

theorem areListed : OutlineModule.AreListed written.outline written.lines := by
  obtain ⟨first, more, modules⟩ := List.exists_cons_of_ne_nil written.nonempty
  refine ⟨written.front, first.entry, more.map WrittenModule.entry, ?_, ?_⟩
  · rw [lines, modules, List.map_cons]
  · rw [outline, modules, ← List.map_cons, List.forall₂_map_left_iff, List.forall₂_map_right_iff,
      List.forall₂_same]
    exact fun module _ => module.lists

theorem categories_ne_nil : ∀ module ∈ written.outline, module.categories ≠ [] := by
  intro module member
  obtain ⟨source, _, rfl⟩ := List.mem_map.mp member
  exact fun empty => source.nonempty (List.map_eq_nil_iff.mp empty)

/-- The Index holds the list: no line of it is code, and the list is its lines without the blank
ones. -/
structure IsIn (index : Section) : Prop where
  noCode : ∀ line ∈ index.lines, line.inCode = false
  lines_eq : index.lines.filter (!·.isBlank) = written.lines

/-- The outline of an Index in which a list is written is what the list means, without a problem. -/
theorem ofSection_eq {index : Section} (isIn : written.IsIn index) :
    Outline.ofSection index = ⟨written.outline, []⟩ := by
  refine Outline.ofSection_eq_iff.mpr ⟨isIn.noCode, ?_, written.categories_ne_nil⟩
  rw [isIn.lines_eq]
  exact written.areListed

/-! ### A list of two modules -/

/-- A name without a signature behind some spaces, as a list of its own. -/
def single (spaces : Nat) (name : List Char) (path : Name.isPath name = true)
    (plain : '\x60' ∉ name) : SymbolList where
  listing :=
    { Listing.nil.consCode name plain (Name.ne_nil_of_isPath path) with
      front := List.replicate spaces ' '
      front_plain := fun tick => by cases List.eq_of_mem_replicate tick }
  symbols := [⟨name, none, [], [], [], path, by rintro _ ⟨⟩, by rintro _ ⟨⟩, by rintro _ ⟨⟩⟩]
  codes_eq := congrArg (fun code => [code]) (List.append_nil name).symm
  idle := OutlineToken.isIdle_of_all fun character member => by
    change character ∈ List.replicate spaces ' ' ++ [] at member
    rw [List.append_nil] at member
    rw [List.eq_of_mem_replicate member]
    rfl

/-- A symbol with a signature, and a comma behind it. -/
def withSignature : SymbolList where
  listing := ⟨[' '], [⟨"A (x)".toList, [','], by decide, by decide, by decide⟩], by decide⟩
  symbols := [⟨['A'], some "(x)".toList, [], [' '], [], rfl, by rintro _ ⟨⟩; rfl,
    by rintro _ ⟨⟩ _ ⟨⟩; rfl, List.all_eq_true.mp rfl⟩]
  codes_eq := rfl
  idle := OutlineToken.leftover?_eq_none_iff.mp rfl

/-- A mark for no symbols. -/
def noSymbols : SymbolList where
  listing := ⟨" N/A".toList, [], by decide⟩
  symbols := []
  codes_eq := rfl
  idle := OutlineToken.leftover?_eq_none_iff.mp (by decide)

/-- A list with items of all three marks, names in two formats, an empty category, and a category
that goes on behind a blank line. -/
def sample : WrittenIndex where
  base := 0
  front := [⟨⟨2, "All of it.", false⟩, ⟨rfl, rfl⟩, Bullet.ofLine?_eq_none_iff.mp rfl⟩]
  modules := [
    { item := .spaced 4 '*' rfl
      name := ['m']
      marked := "[\x60m\x60](#m)".toList
      description := " one".toList
      indent := 2
      categories := [
        { item := .spaced 5 '-' rfl
          kind := .class_
          lead := "**".toList
          label := "Classes".toList
          inner := []
          blanks := []
          outer := "**".toList
          list := withSignature
          more := [⟨7, single 4 ['B'] rfl (by decide), rfl,
            Bullet.ofLine?_eq_none_iff.mp rfl, by decide⟩]
          isLabel := by decide
          emphasis := List.all_eq_true.mp rfl
          blank := List.all_eq_true.mp rfl },
        { item := .spaced 8 '+' rfl
          kind := .method
          lead := []
          label := "methods".toList
          inner := []
          blanks := [' ']
          outer := []
          list := noSymbols
          more := []
          isLabel := by decide
          emphasis := List.all_eq_true.mp rfl
          blank := List.all_eq_true.mp rfl }]
      path := rfl
      formatted := .linked "#m".toList ModuleName.nil_mem_stars ModuleName.tick_mem_ticks
        ModuleName.tick_mem_ticks ModuleName.nil_mem_stars
      apart := by rintro _ ⟨⟩; rfl
      below := by decide
      nonempty := List.cons_ne_nil _ _ },
    { item := .spaced 9 '-' rfl
      name := "n_".toList
      marked := "__n___".toList
      description := []
      indent := 4
      categories := [
        { item := .spaced 10 '-' rfl
          kind := .function
          lead := []
          label := "FUNCTION".toList
          inner := []
          blanks := []
          outer := []
          list := single 1 ['f'] rfl (by decide)
          more := []
          isLabel := by decide
          emphasis := List.all_eq_true.mp rfl
          blank := List.all_eq_true.mp rfl }]
      path := rfl
      formatted := .underscored ModuleName.nil_mem_ticks ModuleName.nil_mem_ticks
      apart := ModuleName.isApart_nil
      below := by decide
      nonempty := List.cons_ne_nil _ _ }]
  nonempty := List.cons_ne_nil _ _

/-- A section in which the list stands, with blank lines in it. -/
def sampleIndex : Section where
  kind := .index
  title := "Index"
  level := 2
  moduleName := none
  span := ⟨1, 10, none⟩
  lines := [
    ⟨2, "All of it.", false⟩, ⟨3, "", false⟩, ⟨4, "* [\x60m\x60](#m) one", false⟩,
    ⟨5, "  - **Classes:** \x60A (x)\x60,", false⟩, ⟨6, " ", false⟩, ⟨7, "    \x60B\x60", false⟩,
    ⟨8, "  + methods : N/A", false⟩, ⟨9, "- __n___", false⟩,
    ⟨10, "    - FUNCTION: \x60f\x60", false⟩]
  headings := []
  codeBlocks := []

theorem ofSection_sample :
    sample.IsIn sampleIndex ∧ Outline.ofSection sampleIndex = ⟨sample.outline, []⟩ := by
  have isIn : sample.IsIn sampleIndex := ⟨by decide, rfl⟩
  exact ⟨isIn, sample.ofSection_eq isIn⟩

/-- A list with a symbol inside a word that is a mark for no symbols. -/
def glued : WrittenIndex where
  base := 0
  front := []
  modules := [
    { item := .spaced 2 '-' rfl
      name := ['m']
      marked := "**m**".toList
      description := []
      indent := 2
      categories := [
        { item := .spaced 3 '-' rfl
          kind := .class_
          lead := []
          label := "Classes".toList
          inner := []
          blanks := []
          outer := []
          list :=
            { listing :=
                ⟨" n".toList, [⟨['A'], "one".toList, by decide, by decide, by decide⟩], by decide⟩
              symbols := [⟨['A'], none, [], [], [], rfl, by rintro _ ⟨⟩, by rintro _ ⟨⟩,
                List.all_eq_true.mp rfl⟩]
              codes_eq := rfl
              idle := OutlineToken.leftover?_eq_none_iff.mp (by decide) }
          more := []
          isLabel := by decide
          emphasis := List.all_eq_true.mp rfl
          blank := List.all_eq_true.mp rfl }]
      path := rfl
      formatted := .bold ModuleName.nil_mem_ticks ModuleName.nil_mem_ticks
      apart := ModuleName.isApart_nil
      below := by decide
      nonempty := List.cons_ne_nil _ _ }]
  nonempty := List.cons_ne_nil _ _

end WrittenIndex

end LlmTxt

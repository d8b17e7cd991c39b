/-
This file reads the Index of a manual back. The state of reading an outline is followed line by
line: behind the bullets of some modules it holds these modules with their categories and symbols,
and no problem. So the outline of the whole Index is that of the manual, apart from where its parts
stand, and the table that is built from it holds the symbols that the manual lists.
-/

import LlmTxt.Proofs.Manual.Bullets
import LlmTxt.Proofs.Manual.Document
import LlmTxt.Proofs.Manual.Symbols
import LlmTxt.Proofs.Outline.Reading

namespace LlmTxt

/-! ### Outlines apart from their lines -/

/-- What a category lists, apart from where. -/
def OutlineCategory.listing (category : OutlineCategory) :
    SymbolKind × List (String × Option String) :=
  (category.kind, category.tokens.map fun token => (token.name, token.signature))

/-- What a module of an outline lists, apart from where. -/
def OutlineModule.listing (module : OutlineModule) :
    String × List (SymbolKind × List (String × Option String)) :=
  (module.name, module.categories.map OutlineCategory.listing)

theorem OutlineModule.declared_symbols (module : OutlineModule) :
    module.symbols.map SymbolEntry.declared =
      module.listing.2.flatMap fun category => category.2.map fun symbol =>
        ⟨module.listing.1, category.1, symbol.1, symbol.2⟩ := by
  unfold OutlineModule.symbols OutlineModule.listing
  rw [List.map_flatMap, List.flatMap_map]
  refine List.flatMap_congr fun category _ => ?_
  simp [OutlineCategory.symbols, OutlineCategory.listing, SymbolEntry.declared, Function.comp_def]

/-! ### Reading line by line -/

namespace OutlineReading

/-- Behind some bullets the state of reading holds what they list, and no problem. -/
structure HasRead (reading : OutlineReading)
    (known : List (String × List (SymbolKind × List (String × Option String)))) : Prop where
  modules_eq : reading.modules.toList.map OutlineModule.listing = known
  problems_eq : reading.problems.toList = []
  base_eq : reading.base.getD 0 = 0
  indent_eq : reading.categoryIndent.getD 2 = 2
  started : known ≠ [] → reading.base = some 0 ∧ reading.inModule = true

theorem hasRead_start : start.HasRead [] :=
  ⟨rfl, rfl, rfl, rfl, fun none => absurd rfl none⟩

variable {reading : OutlineReading}
  {known : List (String × List (SymbolKind × List (String × Option String)))}

theorem readLine_of_bullet {text : List Char} {bullet : Bullet}
    (filled : Text.isAllBlank text = false) (found : Bullet.ofLine? text = some bullet) (number : Nat) :
    reading.readLine ⟨number, String.ofList text, false⟩ =
      { reading with inCode := false }.readBullet number bullet := by
  have noBlank : SourceLine.isBlank ⟨number, String.ofList text, false⟩ = false := by
    rw [SourceLine.isBlank, String.toList_ofList, filled]
  have written : Bullet.IsWritten (String.ofList text).toList bullet := by
    rwa [String.toList_ofList, ← Bullet.ofLine?_eq_some_iff]
  exact readLine_bullet reading ⟨_, bullet, ⟨rfl, noBlank⟩, written⟩

/-- The bullet of a module adds the module. -/
theorem HasRead.readModule (hasRead : reading.HasRead known) (module : Manual.Module)
    (number : Nat) :
    (reading.readLine ⟨number, String.ofList module.bullet, false⟩).HasRead
      (known ++ [(String.ofList module.name, [])]) := by
  rw [readLine_of_bullet rfl (Manual.ofLine?_bullet module)]
  unfold readBullet
  dsimp only
  rw [if_pos (Nat.zero_le _)]
  unfold OutlineReading.readModule
  dsimp only
  rw [ModuleName.moduleName?_bold module.path]
  refine ⟨?_, hasRead.problems_eq, hasRead.base_eq, rfl, fun _ => ⟨?_, rfl⟩⟩
  · simp [← hasRead.modules_eq, OutlineModule.listing]
  · exact congrArg some hasRead.base_eq

/-- Reading a category adds it with its symbols to the last module. -/
theorem HasRead.addCategory {name : String}
    {categories : List (SymbolKind × List (String × Option String))}
    (hasRead : reading.HasRead (known ++ [(name, categories)]))
    {category : SymbolKind × List Char} (member : category ∈ Manual.categories)
    {symbols : List Manual.Symbol} (nonempty : symbols ≠ [])
    (paths : ∀ symbol ∈ symbols, Name.isPath symbol.name = true) (number : Nat) :
    (reading.readCategory number (category.2 ++ (": ".toList ++
        ", ".toList.intercalate (symbols.map Manual.Symbol.coded)))).HasRead
      (known ++ [(name, categories ++ [(category.1, symbols.map Manual.Symbol.listing)])]) := by
  obtain ⟨front, ends, split, frontListing, endsListing⟩ :=
    List.map_eq_append_iff.mp hasRead.modules_eq
  obtain ⟨last, rfl, lastListing⟩ := List.map_eq_singleton_iff.mp endsListing
  obtain ⟨trimmed, kind⟩ := Manual.categoryKind?_label member
  unfold OutlineReading.readCategory
  rw [Manual.category?_listed member nonempty]
  dsimp only
  rw [trimmed, kind]
  dsimp only
  unfold readTokens
  rw [Manual.listed_symbols paths]
  refine ⟨?_, ?_, hasRead.base_eq, hasRead.indent_eq, fun _ => hasRead.started (by simp)⟩
  · have opened := toList_modify_last split fun module =>
      { module with
        categories := module.categories ++ [⟨String.ofList category.2, category.1, number, []⟩] }
    have filled := toList_modify_last opened fun module =>
      { module with
        categories := addToLast (symbols.map fun symbol => symbol.token number) module.categories }
    refine (congrArg (List.map OutlineModule.listing) filled).trans ?_
    rw [List.map_append, frontListing, addToLast_concat]
    obtain ⟨rfl, rfl⟩ := Prod.mk.inj lastListing
    simp [OutlineModule.listing, OutlineCategory.listing, Manual.Symbol.token,
      Function.comp_def]
  · show (reading.problems ++ #[]).toList = []
    rw [Array.append_empty, hasRead.problems_eq]

theorem readInner_eq (inModule : reading.inModule = true)
    (indent : reading.categoryIndent.getD 2 = 2) (number : Nat) (content : List Char) :
    reading.readInner number ⟨2, content⟩ =
      { reading with categoryIndent := some 2 }.readCategory number content := by
  obtain ⟨modules, problems, base, categoryIndent, _, inCategory, inCode⟩ := reading
  cases inModule
  unfold readInner
  dsimp only
  rw [Bool.not_true, if_neg Bool.false_ne_true]
  cases categoryIndent with
  | none => rfl
  | some own =>
    cases indent
    exact if_neg (Nat.lt_irrefl 2)

/-- The bullet of a category adds the category with its symbols to the last module. -/
theorem HasRead.readCategory {name : String}
    {categories : List (SymbolKind × List (String × Option String))}
    (hasRead : reading.HasRead (known ++ [(name, categories)]))
    {category : SymbolKind × List Char} (member : category ∈ Manual.categories)
    {symbols : List Manual.Symbol} (nonempty : symbols ≠ [])
    (paths : ∀ symbol ∈ symbols, Name.isPath symbol.name = true) (number : Nat) :
    (reading.readLine
      ⟨number, String.ofList (Manual.categoryBullet category.2 symbols), false⟩).HasRead
      (known ++ [(name, categories ++ [(category.1, symbols.map Manual.Symbol.listing)])]) := by
  obtain ⟨base, inModule⟩ := hasRead.started (by simp)
  have ready : HasRead { reading with
      inCode := false, base := some 0, categoryIndent := some 2, inModule := true }
      (known ++ [(name, categories)]) :=
    ⟨hasRead.modules_eq, hasRead.problems_eq, rfl, rfl, fun _ => ⟨rfl, rfl⟩⟩
  rw [readLine_of_bullet rfl (Manual.ofLine?_categoryBullet member nonempty)]
  unfold readBullet
  dsimp only
  rw [base]
  dsimp only [Option.getD_some]
  rw [if_neg (by decide), inModule, readInner_eq]
  · exact ready.addCategory member nonempty paths number
  · rfl
  · exact hasRead.indent_eq

end OutlineReading

/-! ### Reading the bullets one behind the other -/

namespace Manual

/-- A category of a module as the Index lists it, if the module has symbols of the kind. -/
def Module.listingOf? (module : Module) (category : SymbolKind × List Char) :
    Option (SymbolKind × List (String × Option String)) :=
  if (module.ofKind category.1).isEmpty then none
  else some (category.1, (module.ofKind category.1).map Symbol.listing)

/-- A module as the Index lists it. -/
def Module.listing (module : Module) :
    String × List (SymbolKind × List (String × Option String)) :=
  (String.ofList module.name, categories.filterMap module.listingOf?)

/-- A line outside code as a body line. -/
def outside (line : Line) : SourceLine :=
  ⟨line.number, line.text, false⟩

end Manual

namespace OutlineReading

variable {reading : OutlineReading} {lines : List Line}
  {known : List (String × List (SymbolKind × List (String × Option String)))}

theorem HasRead.readCategories {name : String} {module : Manual.Module}
    {before : List (SymbolKind × List (String × Option String))}
    (hasRead : reading.HasRead (known ++ [(name, before)]))
    {categories : List (SymbolKind × List Char)}
    (allKnown : ∀ category ∈ categories, category ∈ Manual.categories)
    (said : lines.map Line.characters = categories.filterMap fun category =>
      if (module.ofKind category.1).isEmpty then none
      else some (Manual.categoryBullet category.2 (module.ofKind category.1))) :
    ((lines.map Manual.outside).foldl readLine reading).HasRead
      (known ++ [(name, before ++ categories.filterMap module.listingOf?)]) := by
  induction categories generalizing reading lines before with
  | nil =>
    rw [List.map_eq_nil_iff.mp said]
    simpa using hasRead
  | cons category rest inductionHypothesis =>
    have restKnown : ∀ other ∈ rest, other ∈ Manual.categories :=
      fun other later => allKnown other (List.mem_cons_of_mem _ later)
    rw [List.filterMap_cons] at said ⊢
    by_cases empty : (module.ofKind category.1).isEmpty = true
    · have noListing : module.listingOf? category = none := if_pos empty
      rw [if_pos empty] at said
      rw [noListing]
      exact inductionHypothesis hasRead restKnown said
    · have listing : module.listingOf? category =
          some (category.1, (module.ofKind category.1).map Manual.Symbol.listing) := if_neg empty
      rw [if_neg empty] at said
      obtain ⟨line, more, rfl, lineSaid, moreSaid⟩ := List.map_eq_cons_iff.mp said
      have nonempty : module.ofKind category.1 ≠ [] := by simpa using empty
      have paths : ∀ symbol ∈ module.ofKind category.1, Name.isPath symbol.name = true :=
        fun symbol member => Manual.Module.isPath_name (List.mem_filter.mp member).1
      have step := hasRead.readCategory (allKnown category List.mem_cons_self) nonempty paths
        line.number
      rw [← lineSaid] at step
      have further := inductionHypothesis step restKnown moreSaid
      rw [List.append_assoc] at further
      rw [listing]
      exact further

theorem HasRead.readModuleLines (hasRead : reading.HasRead known) {module : Manual.Module}
    (said : lines.map Line.characters = module.indexLines) :
    ((lines.map Manual.outside).foldl readLine reading).HasRead (known ++ [module.listing]) := by
  obtain ⟨line, more, rfl, lineSaid, moreSaid⟩ := List.map_eq_cons_iff.mp said
  have step := hasRead.readModule module line.number
  rw [← lineSaid] at step
  exact step.readCategories (fun _ member => member) moreSaid

/-- Behind the bullets of modules the state of reading holds these modules. -/
theorem HasRead.readModules (hasRead : reading.HasRead known) {modules : List Manual.Module}
    (said : lines.map Line.characters = modules.flatMap (·.indexLines)) :
    ((lines.map Manual.outside).foldl readLine reading).HasRead
      (known ++ modules.map Manual.Module.listing) := by
  induction modules generalizing reading lines known with
  | nil =>
    rw [List.map_eq_nil_iff.mp said]
    simpa using hasRead
  | cons module rest inductionHypothesis =>
    rw [List.flatMap_cons] at said
    obtain ⟨own, others, rfl, ownSaid, othersSaid⟩ := List.map_eq_append_iff.mp said
    have further := inductionHypothesis (hasRead.readModuleLines ownSaid) othersSaid
    rw [List.append_assoc] at further
    rw [List.map_append, List.foldl_append]
    exact further

/-- Blank lines change nothing. -/
theorem HasRead.readBlank (hasRead : reading.HasRead known)
    (blank : ∀ line ∈ lines, line.characters = []) :
    ((lines.map Manual.outside).foldl readLine reading).HasRead known := by
  induction lines generalizing reading with
  | nil => exact hasRead
  | cons line rest inductionHypothesis =>
    have own : reading.readLine (Manual.outside line) = { reading with inCode := false } := by
      have noText : (Manual.outside line).isBlank = true := by
        rw [SourceLine.isBlank, Manual.outside, Line.text, blank line List.mem_cons_self]
        rfl
      unfold readLine
      rw [noText]
      rfl
    rw [List.map_cons, List.foldl_cons, own]
    refine inductionHypothesis ?_ fun other later => blank other (List.mem_cons_of_mem _ later)
    exact ⟨hasRead.modules_eq, hasRead.problems_eq, hasRead.base_eq, hasRead.indent_eq,
      hasRead.started⟩

end OutlineReading

/-! ### The outline and its table -/

namespace Manual

theorem Module.listing_ne_nil (module : Module) : module.listing.2 ≠ [] := by
  obtain ⟨object, rest, objects⟩ := List.exists_cons_of_ne_nil module.nonempty
  have member : ⟨object.kind, object.itself.name, object.itself.signature⟩ ∈ module.symbols := by
    unfold Module.symbols
    rw [objects, List.flatMap_cons]
    exact List.mem_append_left _ List.mem_cons_self
  obtain ⟨category, known, kind⟩ := List.mem_map.mp (module.kind_mem _ member)
  intro empty
  have left := List.filterMap_eq_nil_iff.mp empty category known
  unfold Module.listingOf? at left
  split at left
  · rename_i noSymbol
    have ofKind : ⟨object.kind, object.itself.name, object.itself.signature⟩ ∈
        module.ofKind category.1 := List.mem_filter.mpr ⟨member, beq_iff_eq.mpr kind.symm⟩
    rw [List.isEmpty_iff.mp noSymbol] at ofKind
    cases ofKind
  · cases left

/-- What a module lists under its categories are its symbols in the order of the Index. -/
theorem Module.declared_listing (module : Module) :
    (module.listing.2.flatMap fun category => category.2.map fun symbol =>
        (⟨module.listing.1, category.1, symbol.1, symbol.2⟩ : Declared)) =
      module.listed.map (·.declared module.name) := by
  unfold Module.listed Module.listing
  rw [List.map_flatMap]
  dsimp only
  induction categories with
  | nil => rfl
  | cons category rest inductionHypothesis =>
    rw [List.filterMap_cons, List.flatMap_cons, ← inductionHypothesis]
    by_cases empty : (module.ofKind category.1).isEmpty = true
    · rw [show module.listingOf? category = none from if_pos empty, List.isEmpty_iff.mp empty]
      rfl
    · rw [show module.listingOf? category =
        some (category.1, (module.ofKind category.1).map Symbol.listing) from if_neg empty]
      dsimp only
      rw [List.flatMap_cons, List.map_map]
      refine congrArg (· ++ _) (List.map_congr_left fun symbol member => ?_)
      have kind : symbol.kind = category.1 := eq_of_beq (List.mem_filter.mp member).2
      simp [Symbol.declared, Symbol.listing, kind]

variable {manual : Manual} {block : Block} (same : block.passage = manual.indexPassage)

include same

/-- The outline of the Index is that of the manual, and there is nothing wrong with it. -/
theorem ofSection_index :
    (Outline.ofSection block.part).modules.map OutlineModule.listing =
        manual.modules.map Module.listing ∧
      (Outline.ofSection block.part).problems = [] := by
  have lines : block.part.lines = block.body.map outside := by
    rw [Block.part_lines, Body.sourceLines_of_plain (plain_index same)]
    rfl
  obtain ⟨own, blank, split, ownSaid, noText⟩ := exists_blank_of_passage same
  have hasRead : (block.part.lines.foldl OutlineReading.readLine .start).HasRead
      (manual.modules.map Module.listing) := by
    rw [lines, split, List.map_append, List.foldl_append]
    exact (OutlineReading.hasRead_start.readModules ownSaid).readBlank noText
  refine ⟨hasRead.modules_eq, ?_⟩
  have filled : ∀ module ∈ (Outline.ofSection block.part).modules,
      module.categories.isEmpty = false := by
    intro module member
    have listed : module.listing ∈ manual.modules.map Module.listing :=
      hasRead.modules_eq ▸ List.mem_map_of_mem member
    obtain ⟨source, _, equal⟩ := List.mem_map.mp listed
    have nonempty := source.listing_ne_nil
    rw [equal] at nonempty
    simpa [OutlineModule.listing] using nonempty
  have noneEmpty :
      (Outline.ofSection block.part).modules.filter (·.categories.isEmpty) = [] := by
    refine List.filter_eq_nil_iff.mpr fun module member => ?_
    rw [filled module member]
    decide
  have notEmpty : (Outline.ofSection block.part).modules.isEmpty = false := by
    have modules : (Outline.ofSection block.part).modules.map OutlineModule.listing ≠ [] := by
      refine Eq.trans_ne hasRead.modules_eq ?_
      simpa using manual.nonempty
    simpa using modules
  show _ ++ Outline.closingProblems (Outline.ofSection block.part).modules _ = []
  rw [hasRead.problems_eq, Outline.closingProblems, noneEmpty, notEmpty]
  rfl

/-- The table of the Index holds the symbols that the manual lists. -/
theorem declared_ofOutline :
    (SymbolTable.ofOutline (.ofSection block.part)).declared = manual.listed := by
  have modules := (ofSection_index same).1
  have names : (Outline.ofSection block.part).modules.map (·.name) =
      manual.modules.map fun module => String.ofList module.name := by
    have first := congrArg (List.map (·.1)) modules
    rw [List.map_map, List.map_map] at first
    exact first
  have built : (SymbolTable.ofOutline (.ofSection block.part)).modules =
      (Outline.ofSection block.part).modules.map fun module => (module.name, module.symbols) := by
    refine SymbolTable.modules_foldl_add OutlineModule.name
      (fun module => .line module.line) OutlineModule.symbols ?_
    rw [names]
    exact manual.nodup_moduleNames
  unfold SymbolTable.declared
  rw [built, List.map_map]
  calc (Outline.ofSection block.part).modules.map (fun module =>
        (module.name, module.symbols.map SymbolEntry.declared))
    _ = ((Outline.ofSection block.part).modules.map OutlineModule.listing).map fun listing =>
          (listing.1, listing.2.flatMap fun category => category.2.map fun symbol =>
            ⟨listing.1, category.1, symbol.1, symbol.2⟩) := by
        rw [List.map_map]
        refine List.map_congr_left fun module _ => ?_
        rw [module.declared_symbols]
        rfl
    _ = manual.listed := by
        rw [modules, List.map_map]
        refine List.map_congr_left fun module _ => ?_
        exact congrArg (Prod.mk _) module.declared_listing

end Manual

end LlmTxt

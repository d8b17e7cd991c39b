/-
This file shows that the table of the module sections holds exactly what their headings declare: for
each module that a section names, one symbol for each heading that declares one there, in the order
of the text, also where several sections name the module. What is reported of the headings is told
in the same way, heading by heading, so it goes with the symbols of unknown kind one by one.

The table groups the symbols by their modules, and the report does not. So the two are compared as
what they make of all headings, and that the grouping loses none is shown apart.
-/

import LlmTxt.Proofs.CrossReference.Difference
import LlmTxt.Proofs.Manual.Symbols
import LlmTxt.Proofs.Symbol.Scope

namespace LlmTxt

/-- What a map that may fail makes goes with what it makes something of, one by one. -/
theorem forall₂_filterMap {Given Made : Type} {make? : Given → Option Made} {keep : Given → Prop}
    [DecidablePred keep] (kept : ∀ one, (make? one).isSome = true ↔ keep one)
    (given : List Given) :
    List.Forall₂ (fun one other => make? one = some other) (given.filter fun one => decide (keep one))
      (given.filterMap make?) := by
  induction given with
  | nil => exact List.Forall₂.nil
  | cons first rest inductionHypothesis =>
    cases made : make? first with
    | none =>
      have dropped : ¬keep first := by
        rw [← kept, made]
        exact Bool.false_ne_true
      rwa [List.filterMap_cons_none made, List.filter_cons_of_neg (by simpa using dropped)]
    | some result =>
      have taken : keep first := by
        rw [← kept, made]
        rfl
      rw [List.filterMap_cons_some made, List.filter_cons_of_pos (by simpa using taken)]
      exact List.Forall₂.cons made inductionHypothesis

/-! ### Tables in groups -/

namespace SymbolTable

/-- To add symbols to a module of a table that has others for each name is to have more for that
name. -/
theorem addSymbols_map {names : List String} (distinct : names.Nodup)
    (known : String → List SymbolEntry) (module : String) (symbols : List SymbolEntry)
    (fresh : module ∉ names → known module = []) :
    addSymbols module symbols (names.map fun name => (name, known name)) =
      (if module ∈ names then names else names ++ [module]).map fun name =>
        (name, known name ++ if module = name then symbols else []) := by
  have others {rest : List String} (absent : module ∉ rest) :
      rest.map (fun name => (name, known name ++ if module = name then symbols else [])) =
        rest.map fun name => (name, known name) := by
    refine List.map_congr_left fun name member => ?_
    have different : module ≠ name := fun same => absent (same ▸ member)
    rw [if_neg different, List.append_nil]
  induction names with
  | nil =>
    rw [if_neg List.not_mem_nil, List.map_nil, addSymbols, List.nil_append, List.map_singleton,
      fresh List.not_mem_nil, if_pos rfl, List.nil_append]
  | cons first rest inductionHypothesis =>
    obtain ⟨new, further⟩ := List.nodup_cons.mp distinct
    rw [List.map_cons, addSymbols]
    by_cases same : first = module
    · subst same
      rw [if_pos rfl, if_pos List.mem_cons_self, List.map_cons, if_pos rfl, others new]
    · have absent : module ∉ rest → known module = [] := fun out =>
        fresh (List.not_mem_cons_of_ne_of_not_mem (Ne.symm same) out)
      rw [if_neg same, inductionHypothesis further absent]
      have member : module ∈ first :: rest ↔ module ∈ rest := by
        rw [List.mem_cons, or_iff_right (Ne.symm same)]
      rw [if_congr member rfl rfl]
      split <;> simp [Ne.symm same]

/-- A table that is built by adding modules has each name once, in the order in which the names
come, with the symbols of everything that has been added under it. -/
theorem modules_foldl_add_grouped {Item : Type} (name : Item → String) (span : Item → Span)
    (symbols : Item → List SymbolEntry) (source : TableSource) (items : List Item) :
    (items.foldl (fun table item => table.add (name item) (span item) (symbols item))
        (empty source)).modules =
      (items.map name).eraseDups.map fun module =>
        (module, (items.filter fun item => decide (name item = module)).flatMap symbols) := by
  induction items using List.reverseRecOn with
  | nil => rfl
  | append_singleton earlier last inductionHypothesis =>
    rw [List.foldl_append, List.foldl_cons, List.foldl_nil]
    refine (congrArg (addSymbols (name last) (symbols last)) inductionHypothesis).trans ?_
    rw [addSymbols_map (nodup_eraseDups _), List.map_append, List.map_singleton, eraseDups_concat,
      if_congr List.mem_eraseDups rfl rfl]
    · refine List.map_congr_left fun module _ => ?_
      rw [List.filter_append, List.flatMap_append, List.filter_singleton]
      by_cases same : name last = module <;> simp [same]
    · intro new
      rw [List.mem_eraseDups] at new
      have none : (earlier.filter fun item => decide (name item = name last)) = [] := by
        refine List.filter_eq_nil_iff.mpr fun item member same => ?_
        exact new (List.mem_map.mpr ⟨item, member, of_decide_eq_true same⟩)
      rw [none, List.flatMap_nil]

end SymbolTable

/-! ### What a heading makes -/

/-- The kind of a declaration that follows the grammar is known. -/
theorem ObjectHeader.kind_ne_unknown {heading : List Char} {header : ObjectHeader}
    (read : ofHeading? heading = .ok (some header)) : header.kind ≠ .unknown := by
  have known : words.all (fun entry => entry.2.1 != .unknown) = true := by decide
  unfold ofHeading? at read
  split at read
  · cases read
  · rename_i written kind rest found
    obtain ⟨entry, member, _, kind_eq⟩ := word?_eq_some found
    split at read
    · cases read
    · split at read
      · cases read
      · dsimp only at read
        split at read
        · cases read
          have own := List.all_eq_true.mp known entry member
          exact kind_eq ▸ bne_iff_ne.mp own
        · cases read

theorem Heading.kind_ne_unknown {heading : Heading} {header : ObjectHeader}
    (declares : heading.header? = some header) : header.kind ≠ .unknown := by
  unfold Heading.header? at declares
  cases read : ObjectHeader.ofHeading? heading.text.toList with
  | error failure =>
    rw [read] at declares
    cases declares
  | ok header? =>
    rw [read] at declares
    exact ObjectHeader.kind_ne_unknown (read.trans (congrArg Except.ok declares))

namespace Place

open Declaration

variable {place : Place}

/-- The symbol that a heading declares. -/
def symbol? (place : Place) : Option SymbolEntry :=
  place.declaration?.map (·.symbol place.module)

/-- The diagnostic of a heading that declares a symbol and follows no grammar. -/
def diagnostic? (place : Place) : Option Diagnostic :=
  (place.declaration?.filter (·.header.isNone)).map (·.diagnostic place.module)

/-- A symbol is what a heading declares. -/
structure Makes (place : Place) (symbol : SymbolEntry) : Prop where
  module_eq : symbol.module = place.module
  span_eq : symbol.span = .line place.heading.line
  kind_eq : symbol.kind = (place.heading.header?.map (·.kind)).getD .unknown
  signature_eq : symbol.signature = place.heading.header?.bind (·.signature)
  /-- An object has the name that its heading says, or the one that the heading seems to call. -/
  object_name : place.heading.level = objectLevel →
    symbol.name = (place.heading.header?.map (·.name)).getD
      (String.ofList (ObjectHeader.fallbackName place.heading.text.toList))
  /-- A method has the name of its owner before its own, which the heading may leave out. -/
  member_name : place.heading.level = memberLevel →
    ∃ owner header rest, place.owner? = some owner ∧ place.heading.header? = some header ∧
      symbol.name = owner ++ "." ++ rest ∧ (header.name = symbol.name ∨ header.name = rest)

/-- The name of a method begins with that of its owner. -/
theorem exists_owned (owner name : String) : ∃ rest,
    (if name.startsWith (owner ++ ".") then name else owner ++ "." ++ name) = owner ++ "." ++ rest ∧
      (name = (if name.startsWith (owner ++ ".") then name else owner ++ "." ++ name) ∨
        name = rest) := by
  by_cases owned : name.startsWith (owner ++ ".") = true
  · obtain ⟨rest, split⟩ := (String.startsWith_string_iff).mp owned
    refine ⟨String.ofList rest, ?_, Or.inl (if_pos owned).symm⟩
    rw [if_pos owned]
    refine String.ext ?_
    rw [String.toList_append, String.toList_ofList, split]
  · exact ⟨name, if_neg owned, Or.inr rfl⟩

/-- A declaration keeps its heading and what that declares. -/
theorem of_declaration? {declaration : Declaration} (declares : place.declaration? = some declaration) :
    declaration.heading = place.heading ∧ declaration.header = place.heading.header? := by
  unfold declaration? at declares
  split at declares
  · cases declares
    cases place.heading.header? <;> exact ⟨rfl, rfl⟩
  · obtain ⟨_, declares⟩ := Option.ite_none_right_eq_some.mp declares
    obtain ⟨owner, _, declares⟩ := Option.bind_eq_some_iff.mp declares
    cases header : place.heading.header? with
    | none =>
      rw [header] at declares
      cases declares
    | some own =>
      rw [header] at declares
      obtain ⟨_, declares⟩ := Option.ite_none_right_eq_some.mp declares
      cases declares
      exact ⟨rfl, rfl⟩

theorem object_name_of_declaration? {declaration : Declaration}
    (declares : place.declaration? = some declaration) (object : place.heading.level = objectLevel) :
    declaration.name = (place.heading.header?.map (·.name)).getD
      (String.ofList (ObjectHeader.fallbackName place.heading.text.toList)) := by
  unfold declaration? at declares
  rw [if_pos object] at declares
  cases declares
  cases place.heading.header? <;> rfl

theorem member_name_of_declaration? {declaration : Declaration}
    (declares : place.declaration? = some declaration) (member : place.heading.level = memberLevel) :
    ∃ owner header rest, place.owner? = some owner ∧ place.heading.header? = some header ∧
      declaration.name = owner ++ "." ++ rest ∧
        (header.name = declaration.name ∨ header.name = rest) := by
  have notObject : ¬place.heading.level = objectLevel := by
    rw [member]
    decide
  unfold declaration? at declares
  rw [if_neg notObject, if_pos member] at declares
  obtain ⟨owner, owned, declares⟩ := Option.bind_eq_some_iff.mp declares
  cases header : place.heading.header? with
  | none =>
    rw [header] at declares
    cases declares
  | some own =>
    rw [header] at declares
    obtain ⟨_, declares⟩ := Option.ite_none_right_eq_some.mp declares
    cases declares
    obtain ⟨rest, named, said⟩ := exists_owned owner own.name
    exact ⟨owner, own, rest, owned, rfl, named, said⟩

theorem makes_of_symbol? {symbol : SymbolEntry} (made : place.symbol? = some symbol) :
    place.Makes symbol := by
  obtain ⟨declaration, declares, rfl⟩ := Option.map_eq_some_iff.mp made
  obtain ⟨heading, header⟩ := of_declaration? declares
  refine ⟨rfl, ?_, ?_, ?_, object_name_of_declaration? declares,
    member_name_of_declaration? declares⟩
  · rw [← heading]
    rfl
  · rw [← header]
    rfl
  · rw [← header]
    rfl

theorem isSome_symbol?_iff : place.symbol?.isSome = true ↔ place.IsObject := by
  rw [symbol?, Option.isSome_map, isSome_declaration?_iff]

/-- What is reported of a heading goes with the symbol that it declares, if that is of unknown
kind. -/
theorem observed_diagnostic? (place : Place) :
    (place.symbol?.filter fun symbol => symbol.kind == .unknown).map
        (fun symbol => (symbol.span, some symbol.qualifiedName)) =
      place.diagnostic?.map fun diagnostic => (diagnostic.span, diagnostic.symbol) := by
  unfold symbol? diagnostic?
  cases declares : place.declaration? with
  | none => rfl
  | some declaration =>
    obtain ⟨_, header⟩ := of_declaration? declares
    have kind : (declaration.symbol place.module).kind =
      (declaration.header.map (·.kind)).getD .unknown := rfl
    cases own : declaration.header with
    | none =>
      rw [own] at kind
      rw [Option.map_some, Option.filter_some, if_pos (by rw [kind]; rfl), Option.filter_some,
        if_pos (by rw [own]; rfl)]
      rfl
    | some known =>
      have different : known.kind ≠ .unknown :=
        Heading.kind_ne_unknown (header.symm.trans own)
      rw [own] at kind
      rw [Option.map_some, Option.filter_some, if_neg (by rw [kind]; simpa using different),
        Option.filter_some, if_neg (by rw [own]; exact Bool.false_ne_true)]
      rfl

end Place

/-! ### Documents -/

namespace Document

/-- The module sections that name a module. -/
def namedSections (document : Document) : List Section :=
  document.moduleSections.filter fun part => part.moduleName.getD "" != ""

/-- The headings in the module sections that name a module, in order. -/
def places (document : Document) : List Place :=
  document.namedSections.flatMap Section.places

/-- The headings in the module sections that declare symbols, in order. -/
def objects (document : Document) : List Place :=
  document.places.filter fun place => decide place.IsObject

/-- A table holds what the headings of the module sections declare, and what is reported is what
does not say what it declares. -/
structure IsExact (document : Document) (sections : SymbolTable) (reported : List Diagnostic) :
    Prop where
  /-- Every module that a section names is there once, also if nothing is declared in it. -/
  names_eq : sections.modules.map (·.1) =
    (document.namedSections.map fun part => part.moduleName.getD "").eraseDups
  /-- The symbols of a module are those of its headings, one for each, in order. -/
  makes : ∀ entry ∈ sections.modules,
    List.Forall₂ Place.Makes (document.objects.filter fun place => decide (place.module = entry.1))
      entry.2
  /-- All symbols together are those of all headings, one for each. -/
  all_make : ∃ symbols, symbols.Perm (sections.modules.flatMap (·.2)) ∧
    List.Forall₂ Place.Makes document.objects symbols
  /-- The headings come one behind the other, so no two are on one line. -/
  increasing : (document.objects.map (·.heading.line)).Pairwise (· < ·)
  codes : ∀ diagnostic ∈ reported, diagnostic.code = Code.unrecognizedObjectHeader.name
  /-- What is reported goes with the symbols of unknown kind, one for each. -/
  reports : (((sections.modules.flatMap (·.2)).filter fun symbol => symbol.kind == .unknown).map
      fun symbol => (symbol.span, some symbol.qualifiedName)).Perm
    (reported.map fun diagnostic => (diagnostic.span, diagnostic.symbol))

variable {document : Document}

theorem moduleContents_of_readable (readable : ∀ place ∈ document.places, place.IsReadable) :
    document.moduleContents = .ok (document.namedSections.map fun part =>
      ⟨part.moduleName.getD "", part.headingSpan, part.places.filterMap Place.declaration?⟩) := by
  unfold moduleContents
  refine mapM_eq_ok_iff.mpr (List.forall₂_map_right_iff.mpr (List.forall₂_same.mpr ?_))
  intro part member
  have read := Declaration.ofHeadings_eq part fun place inPart =>
    readable place (List.mem_flatMap.mpr ⟨part, member, inPart⟩)
  rw [read]
  rfl

theorem module_of_mem_places {part : Section} {place : Place} (member : place ∈ part.places) :
    place.module = part.moduleName.getD "" := by
  rw [Place.module, Section.part_of_mem_placesFrom member]

/-- What the headings of a module declare, section by section. -/
theorem filterMap_places (document : Document) (module : String) :
    (document.places.filter fun place => decide (place.module = module)).filterMap Place.symbol? =
      (document.namedSections.filter fun part => decide (part.moduleName.getD "" = module)).flatMap
        fun part => (part.places.filterMap Place.declaration?).map
          (·.symbol (part.moduleName.getD "")) := by
  unfold places
  induction document.namedSections with
  | nil => rfl
  | cons part rest inductionHypothesis =>
    have own : part.places.filterMap Place.symbol? =
        (part.places.filterMap Place.declaration?).map (·.symbol (part.moduleName.getD "")) := by
      rw [List.map_filterMap]
      refine List.filterMap_congr fun place member => ?_
      rw [Place.symbol?, module_of_mem_places member]
    rw [List.flatMap_cons, List.filter_append, List.filterMap_append, inductionHypothesis]
    by_cases same : part.moduleName.getD "" = module
    · have all : (part.places.filter fun place => decide (place.module = module)) = part.places :=
        List.filter_eq_self.mpr fun place member =>
          decide_eq_true ((module_of_mem_places member).trans same)
      rw [all, own, List.filter_cons_of_pos (by simpa using same), List.flatMap_cons]
    · have none : (part.places.filter fun place => decide (place.module = module)) = [] :=
        List.filter_eq_nil_iff.mpr fun place member inModule =>
          same ((module_of_mem_places member).symm.trans (of_decide_eq_true inModule))
      rw [none, List.filter_cons_of_neg (by simpa using same)]
      rfl

/-- The table of the module sections, module by module. -/
theorem moduleTable_of_readable (readable : ∀ place ∈ document.places, place.IsReadable) :
    ∃ sections, document.moduleTable = .ok sections ∧
      sections.modules =
        (document.namedSections.map fun part => part.moduleName.getD "").eraseDups.map fun module =>
          (module, (document.places.filter fun place => decide (place.module = module)).filterMap
            Place.symbol?) := by
  rw [moduleTable_eq, moduleContents_of_readable readable]
  refine ⟨_, rfl, ?_⟩
  rw [SymbolTable.modules_foldl_add_grouped, List.map_map]
  refine List.map_congr_left fun module _ => ?_
  rw [filterMap_places, List.filter_map, List.flatMap_map]
  rfl

theorem checkDeclarations_of_readable (readable : ∀ place ∈ document.places, place.IsReadable) :
    document.checkDeclarations = .ok (document.places.filterMap Place.diagnostic?) := by
  rw [checkDeclarations_eq, moduleContents_of_readable readable]
  refine congrArg Except.ok ?_
  unfold places
  dsimp only
  rw [List.flatMap_map, List.filterMap_flatMap]
  refine List.flatMap_congr fun part _ => ?_
  rw [List.filter_filterMap, List.map_filterMap]
  refine List.filterMap_congr fun place member => ?_
  rw [Place.diagnostic?, module_of_mem_places member]

/-- The symbols of all modules are those of all headings. -/
theorem perm_filterMap_symbol? (document : Document) :
    ((document.namedSections.map fun part => part.moduleName.getD "").eraseDups.flatMap fun module =>
        (document.places.filter fun place => decide (place.module = module)).filterMap
          Place.symbol?).Perm (document.places.filterMap Place.symbol?) := by
  rw [← List.filterMap_flatMap]
  refine List.Perm.filterMap _ ?_
  refine Manual.flatMap_filter_perm Place.module (nodup_eraseDups _) fun place member => ?_
  obtain ⟨part, inSections, inPart⟩ := List.mem_flatMap.mp member
  rw [List.mem_eraseDups, module_of_mem_places inPart]
  exact List.mem_map_of_mem inSections

/-- The headings that declare symbols come one behind the other in the text. -/
theorem pairwise_line_objects {text : String} {fatal : Option FatalDefect}
    (read : ofText text = .ok (document, fatal)) :
    (document.objects.map (·.heading.line)).Pairwise (· < ·) := by
  have all : document.places.map (·.heading) = document.namedSections.flatMap (·.headings) := by
    unfold places
    rw [List.map_flatMap]
    exact List.flatMap_congr fun part _ => part.map_heading_placesFrom [] part.headings
  have named : List.Sublist document.namedSections document.sections :=
    List.filter_sublist.trans List.filter_sublist
  have inText : List.Sublist (document.objects.map (·.heading))
      (document.sections.flatMap (·.headings)) := by
    refine (List.filter_sublist.map _).trans ?_
    rw [all]
    exact named.flatMap _
  have lines := inText.map (·.line)
  rw [List.map_map] at lines
  exact (pairwise_line_headings read).sublist lines

/-- The table of the module sections is exact, and so is what is reported of their headings: if every
heading that has to be read can be read, the symbols are those of the headings that declare any, and
the diagnostics those of the ones that follow no grammar. -/
theorem moduleTable_exact {text : String} {fatal : Option FatalDefect}
    (read : ofText text = .ok (document, fatal))
    (readable : ∀ place ∈ document.places, place.IsReadable) :
    ∃ sections reported, document.moduleTable = .ok sections ∧
      document.checkDeclarations = .ok reported ∧ document.IsExact sections reported := by
  obtain ⟨sections, tableRun, modules⟩ := moduleTable_of_readable readable
  have checkRun := checkDeclarations_of_readable readable
  have made (places : List Place) : List.Forall₂ Place.Makes
      (places.filter fun place => decide place.IsObject) (places.filterMap Place.symbol?) :=
    (forall₂_filterMap (fun place => @Place.isSome_symbol?_iff place) places).imp
      fun _ _ => Place.makes_of_symbol?
  have together : (sections.modules.flatMap (·.2)).Perm
      (document.places.filterMap Place.symbol?) := by
    rw [modules, List.flatMap_map]
    exact document.perm_filterMap_symbol?
  refine ⟨sections, _, tableRun, checkRun, ?_, ?_, ⟨_, together.symm, made document.places⟩,
    pairwise_line_objects read, ?_, ?_⟩
  · rw [modules, List.map_map]
    exact List.map_id _
  · intro entry member
    rw [modules] at member
    obtain ⟨module, _, rfl⟩ := List.mem_map.mp member
    have own := made (document.places.filter fun place => decide (place.module = module))
    rwa [List.filter_comm] at own
  · intro diagnostic member
    obtain ⟨code, single, named⟩ := checkDeclarations_codes checkRun member
    rwa [List.mem_singleton.mp single] at named
  · refine ((together.filter _).map _).trans (List.Perm.of_eq ?_)
    rw [List.filter_filterMap, List.map_filterMap, List.map_filterMap]
    exact List.filterMap_congr fun place _ => place.observed_diagnostic?

/-- A text with a module in two sections, a class with a method and a method beside it, a heading
outside the grammar, and a module without anything in it. -/
def scopesText : String :=
  "## Module: m\n#### class A\n##### method f\n### x\n##### method g\n" ++
    "## Module: n\n## Module: m\n#### h (i)\n"

theorem moduleTable_exact_of_scopes :
    ∃ document sections reported, ofText scopesText = .ok (document, none) ∧
      document.objects.map (·.heading.line) = [2, 3, 8] ∧
      document.moduleTable = .ok sections ∧ document.checkDeclarations = .ok reported ∧
      document.IsExact sections reported := by
  obtain ⟨document, read, lines, all⟩ : ∃ document, ofText scopesText = .ok (document, none) ∧
      document.objects.map (·.heading.line) = [2, 3, 8] ∧
      (document.places.all fun place =>
        (ObjectHeader.ofHeading? place.heading.text.toList).toOption.isSome) = true :=
    ⟨_, rfl, rfl, rfl⟩
  have readable : ∀ place ∈ document.places, place.IsReadable := by
    intro place member _
    have own := List.all_eq_true.mp all place member
    cases found : ObjectHeader.ofHeading? place.heading.text.toList with
    | error failure =>
      rw [found] at own
      cases own
    | ok header? => exact ⟨header?, rfl⟩
  obtain ⟨sections, reported, tableRun, checkRun, holds⟩ := moduleTable_exact read readable
  exact ⟨document, sections, reported, read, lines, tableRun, checkRun, holds⟩

end Document

end LlmTxt

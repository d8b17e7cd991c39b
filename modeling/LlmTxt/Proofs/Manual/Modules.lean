/-
This file reads the module sections of a manual back. Headings are read one behind the other, and
what a heading declares depends on the last object before it: a method belongs to it. So the
induction is on the objects, for any owner before them, and inside an object on its methods.
-/

import LlmTxt.Proofs.Manual.Index

namespace LlmTxt.Manual

/-! ### The headings of objects -/

/-- The level and the title of the heading of a method. -/
def methodHeading (method : Callable) : Nat × List Char :=
  (5, "method ".toList ++ written method.name method.signature)

/-- The levels and titles of the headings of an object and its methods. -/
def Object.headings (object : Object) : List (Nat × List Char) :=
  (4, object.lead ++ written object.itself.name object.itself.signature) ::
    object.methods.map methodHeading

theorem objectSigns (title : List Char) :
    "#### ".toList ++ title = List.replicate 4 '#' ++ ' ' :: title := rfl

theorem methodSigns (title : List Char) :
    "##### ".toList ++ title = List.replicate 5 '#' ++ ' ' :: title := rfl

theorem ofLine?_methodLine (method : Callable) :
    Heading.ofLine?
        ("##### ".toList ++ ("method ".toList ++ written method.name method.signature)) =
      some (methodHeading method) := by
  rw [methodSigns]
  exact Heading.ofLine?_title (by decide) (by decide)
    (isTitle_written isLead_method method.identifier method.signature)

theorem Object.headings_lines (object : Object) :
    object.lines.filterMap Heading.ofLine? = object.headings := by
  obtain ⟨word, isLead⟩ := object.exists_isLead
  have own : Heading.ofLine?
      ("#### ".toList ++ (object.lead ++ written object.itself.name object.itself.signature)) =
      some (4, object.lead ++ written object.itself.name object.itself.signature) := by
    rw [objectSigns]
    exact Heading.ofLine?_title (by decide) (by decide)
      (isTitle_written isLead object.itself.identifier object.itself.signature)
  unfold Object.lines Object.headings
  rw [List.filterMap_cons, own, List.filterMap_map]
  refine congrArg (List.cons _) ?_
  rw [← List.filterMap_eq_map]
  refine List.filterMap_congr fun method _ => ?_
  rw [Function.comp_apply, ofLine?_methodLine, Function.comp_apply]

/-! ### Declarations of symbols -/

/-- A declaration follows the grammar and declares a symbol. -/
structure Declares (declaration : Declaration) (symbol : Symbol) : Prop where
  grammatical : declaration.header.isSome = true
  declared_eq : ∀ module : List Char,
    (declaration.symbol (String.ofList module)).declared = symbol.declared module

/-- Headings are read as the declarations of symbols. -/
def AreDeclared (owner : Option String) (headings : List Heading) (symbols : List Symbol) : Prop :=
  ∃ declarations, Declaration.ofHeadings owner headings = .ok declarations ∧
    List.Forall₂ Declares declarations symbols

/-- A method stands under the name of its owner, because its own name holds no dot. -/
theorem startsWith_owner {name : List Char} (identifier : Name.isIdentifier name = true)
    (owner : String) : (String.ofList name).startsWith (owner ++ ".") = false := by
  rw [String.startsWith_string_eq_false_iff, String.toList_ofList, String.toList_append]
  intro isPrefix
  have dot : '.' ∈ name := isPrefix.subset (List.mem_append_right _ List.mem_cons_self)
  exact Name.not_mem_of_isIdentifier identifier (by decide) dot

theorem declares_method (owner : List Char) (method : Callable) (heading : Heading) :
    ∃ declaration,
      Declaration.ofMemberHeader (String.ofList owner) heading
        (some ⟨.method, String.ofList method.name,
          method.signature.map fun given => String.ofList given.text⟩) = some declaration ∧
      Declares declaration ⟨.method, owner ++ '.' :: method.name, method.signature⟩ := by
  have name : (if (String.ofList method.name).startsWith (String.ofList owner ++ ".") then
        String.ofList method.name else String.ofList owner ++ "." ++ String.ofList method.name) =
      String.ofList (owner ++ '.' :: method.name) := by
    rw [startsWith_owner method.identifier, if_neg Bool.false_ne_true]
    refine String.ext ?_
    simp
  unfold Declaration.ofMemberHeader
  dsimp only
  rw [if_pos rfl, name]
  exact ⟨_, rfl, rfl, fun module => rfl⟩

/-- The methods under a class are read as its own. -/
theorem AreDeclared.methods {owner : List Char} {methods : List Callable}
    {headings rest : List Heading} {symbols : List Symbol}
    (said : headings.map (fun heading => (heading.level, heading.text.toList)) =
      methods.map methodHeading)
    (further : AreDeclared (some (String.ofList owner)) rest symbols) :
    AreDeclared (some (String.ofList owner)) (headings ++ rest)
      ((methods.map fun method => ⟨.method, owner ++ '.' :: method.name, method.signature⟩) ++
        symbols) := by
  induction methods generalizing headings with
  | nil =>
    rw [List.map_eq_nil_iff.mp said]
    exact further
  | cons method others inductionHypothesis =>
    obtain ⟨heading, more, rfl, own, others⟩ := List.map_eq_cons_iff.mp said
    obtain ⟨level, text⟩ := Prod.mk.inj own
    obtain ⟨declarations, read, declared⟩ := inductionHypothesis others
    obtain ⟨declaration, made, declares⟩ := declares_method owner method heading
    have owned : Declaration.isMemberOf (some (String.ofList owner)) heading =
        some (String.ofList owner) := if_pos level
    refine ⟨declaration :: declarations, ?_, List.Forall₂.cons declares declared⟩
    rw [List.cons_append, Declaration.ofHeadings_of_gt (level ▸ by decide), owned, text]
    dsimp only
    rw [ofHeading?_written isLead_method method.identifier method.signature, read]
    show Except.ok _ = _
    rw [made]
    rfl

/-- Objects are read as the declarations of their symbols, whatever comes before them. -/
theorem areDeclared_objects (owner : Option String) {objects : List Object}
    {headings : List Heading}
    (said : headings.map (fun heading => (heading.level, heading.text.toList)) =
      objects.flatMap Object.headings) :
    AreDeclared owner headings (objects.flatMap Object.symbols) := by
  induction objects generalizing owner headings with
  | nil =>
    rw [List.map_eq_nil_iff.mp said]
    exact ⟨[], rfl, List.Forall₂.nil⟩
  | cons object others inductionHypothesis =>
    obtain ⟨word, isLead⟩ := object.exists_isLead
    rw [List.flatMap_cons] at said
    obtain ⟨own, rest, rfl, ownSaid, restSaid⟩ := List.map_eq_append_iff.mp said
    obtain ⟨heading, methods, rfl, itself, methodsSaid⟩ := List.map_eq_cons_iff.mp ownSaid
    obtain ⟨level, text⟩ := Prod.mk.inj itself
    have header := ofHeading?_written isLead object.itself.identifier object.itself.signature
    have behind : AreDeclared
        (Declaration.ofHeader heading (some ⟨object.kind, String.ofList object.itself.name,
          object.itself.signature.map fun given => String.ofList given.text⟩)).owner?
        (methods ++ rest)
        ((object.methods.map fun method =>
          ⟨.method, object.itself.name ++ '.' :: method.name, method.signature⟩) ++
          others.flatMap Object.symbols) := by
      cases object with
      | class_ itself owned => exact (inductionHypothesis _ restSaid).methods methodsSaid
      | exception itself owned => exact (inductionHypothesis _ restSaid).methods methodsSaid
      | function itself =>
        rw [List.map_eq_nil_iff.mp methodsSaid]
        exact inductionHypothesis _ restSaid
    obtain ⟨declarations, read, declared⟩ := behind
    have run : Declaration.ofHeadings owner (heading :: methods ++ rest) =
        .ok (⟨heading, some ⟨object.kind, String.ofList object.itself.name,
          object.itself.signature.map fun given => String.ofList given.text⟩,
          String.ofList object.itself.name⟩ :: declarations) := by
      rw [List.cons_append, Declaration.ofHeadings_of_eq level, text, header]
      show Except.map _ _ = _
      rw [read]
      rfl
    exact ⟨_, run, List.Forall₂.cons ⟨rfl, fun module => rfl⟩ declared⟩

/-! ### The contents of the modules -/

/-- The content of a module section declares the symbols of a module. -/
structure Documents (content : ModuleContent) (module : Module) : Prop where
  module_eq : content.module = String.ofList module.name
  declares : List.Forall₂ Declares content.declarations module.symbols

theorem Documents.grammatical {content : ModuleContent} {module : Module}
    (documented : Documents content module) :
    ∀ declaration ∈ content.declarations, declaration.header.isSome = true := by
  have each : List.Forall₂ (fun declaration symbol =>
      declaration.header.isSome = true ∧ Declares declaration symbol)
      content.declarations module.symbols :=
    documented.declares.imp fun _ _ declares => ⟨declares.grammatical, declares⟩
  exact ((List.forall₂_and_left _ _).mp each).1

variable {manual : Manual}

/-- The headings in the section of a module are those of its objects. -/
theorem headings_module {block : Block} {module : Module}
    (same : block.passage = manual.modulePassage module) :
    block.part.headings.map (fun heading => (heading.level, heading.text.toList)) =
      module.objects.flatMap Object.headings := by
  have gap : (List.replicate manual.gap []).filterMap Heading.ofLine? = [] := by
    refine List.filterMap_eq_nil_iff.mpr fun line member => ?_
    rw [List.eq_of_mem_replicate member]
    rfl
  rw [Block.part_headings, Body.headings_of_plain (plain_module same), body_of_passage same,
    List.filterMap_append, gap, List.append_nil, List.filterMap_flatMap]
  exact List.flatMap_congr fun object _ => object.headings_lines

namespace Blocks

variable {blocks : manual.Blocks} {document : Document} {lines : List Line} {closing : Nat}
  (sections : document.sections = frontmatterSection lines closing :: blocks.all.map Block.part)

include sections

/-- The module sections document the modules of the manual, in their order. -/
theorem exists_moduleContents :
    ∃ contents, document.moduleContents = .ok contents ∧
      List.Forall₂ Documents contents manual.modules := by
  have named : (document.moduleSections.filter fun part => part.moduleName.getD "" != "") =
      blocks.modules.map Block.part := by
    rw [blocks.moduleSections_eq sections]
    refine List.filter_eq_self.mpr fun part member => ?_
    obtain ⟨block, inModules, rfl⟩ := List.mem_map.mp member
    obtain ⟨module, _, same⟩ := exists_module inModules
    have filled : String.ofList module.name ≠ "" := by
      simpa using module.isEmpty_name
    rw [Block.part_moduleName, moduleName_module same]
    exact bne_iff_ne.mpr filled
  unfold Document.moduleContents
  rw [named]
  refine exists_mapM (List.forall₂_map_left_iff.mpr ?_)
  refine blocks.forall₂_modules.imp fun block module same => ?_
  obtain ⟨declarations, read, declares⟩ := areDeclared_objects none (headings_module same)
  refine ⟨⟨String.ofList module.name, block.part.headingSpan, declarations⟩, ?_, rfl, declares⟩
  rw [read, Block.part_moduleName, moduleName_module same]
  rfl

/-- No heading of the module sections is outside the grammar. -/
theorem checkDeclarations_eq : document.checkDeclarations = .ok [] := by
  obtain ⟨contents, read, documents⟩ := exists_moduleContents sections
  have each : List.Forall₂ (fun content module =>
      (∀ declaration ∈ content.declarations, declaration.header.isSome = true) ∧
        Documents content module) contents manual.modules :=
    documents.imp fun _ _ documented => ⟨documented.grammatical, documented⟩
  have grammatical := ((List.forall₂_and_left _ _).mp each).1
  have none : (contents.flatMap fun content =>
      (content.declarations.filter (·.header.isNone)).map (·.diagnostic content.module)) = [] := by
    refine List.flatMap_eq_nil_iff.mpr fun content member => ?_
    refine List.map_eq_nil_iff.mpr (List.filter_eq_nil_iff.mpr fun declaration inContent => ?_)
    have known := grammatical content member declaration inContent
    rw [← Option.not_isSome, known]
    decide
  unfold Document.checkDeclarations
  rw [read]
  exact congrArg Except.ok none

/-- The table of the module sections holds the symbols of the manual. -/
theorem exists_moduleTable :
    ∃ table, document.moduleTable = .ok table ∧ table.declared = manual.documented := by
  obtain ⟨contents, read, documents⟩ := exists_moduleContents sections
  have names : contents.map (·.module) =
      manual.modules.map fun module => String.ofList module.name := by
    rw [← List.forall₂_eq_eq_eq, List.forall₂_map_left_iff, List.forall₂_map_right_iff]
    exact documents.imp fun _ _ documented => documented.module_eq
  have entries : contents.map (fun content => (content.module,
        content.declarations.map fun declaration =>
          (declaration.symbol content.module).declared)) = manual.documented := by
    unfold documented
    rw [← List.forall₂_eq_eq_eq, List.forall₂_map_left_iff, List.forall₂_map_right_iff]
    refine documents.imp fun content module documented => ?_
    rw [documented.module_eq]
    refine congrArg (Prod.mk _) ?_
    rw [← List.forall₂_eq_eq_eq, List.forall₂_map_left_iff, List.forall₂_map_right_iff]
    exact documented.declares.imp fun _ _ declares => declares.declared_eq module.name
  refine ⟨_, by unfold Document.moduleTable; rw [read]; rfl, ?_⟩
  unfold SymbolTable.declared
  rw [SymbolTable.modules_foldl_add ModuleContent.module ModuleContent.span
    fun content => content.declarations.map (·.symbol content.module)]
  · rw [← entries]
    simp [SymbolTable.empty, Function.comp_def]
  · rw [names]
    exact manual.nodup_moduleNames

end Blocks

end LlmTxt.Manual

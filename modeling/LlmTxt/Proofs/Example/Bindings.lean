/-
This file says what a name stands for where example code uses it. Import statements bind names, and
of the bindings of a name the latest before the use decides, over all code blocks of the document.

Reading keeps the bindings in a list with the latest first and looks names up from the front, so it
finds the latest binding that it has noted. It notes what a statement binds that takes names out of a
module, and where modules are bound to other names it notes those. It notes nothing for a module that
is imported as it is, because its name stands for itself anyway. But the language binds the name
there too: if it has been bound to something else before, it does not stand for that any more. So the
latest binding wins if and only if no such import is the latest to bind the name after a binding to
something else.
-/

import LlmTxt.Proofs.Example.Import
import LlmTxt.Proofs.Example.Known
import LlmTxt.Proofs.Example.Statements

namespace LlmTxt

/-! ### The latest binding -/

/-- Of bindings in order, a binding is the latest of its name. -/
def IsLatest (bound : List (List Char × List Char)) (name target : List Char) : Prop :=
  ∃ earlier later, bound = earlier ++ (name, target) :: later ∧ ∀ other ∈ later, other.1 ≠ name

/-- A dotted name is its first identifier, with what stands behind it. -/
structure Name.IsHeaded (path head rest : List Char) : Prop where
  path_eq : path = head ++ rest
  noDot : '.' ∉ head
  behind : ∀ first ∈ rest.head?, first = '.'

/-- What a dotted name is written out as where names are bound: if its first identifier is bound,
what the latest binding binds it to takes its place, and otherwise the name stays. -/
inductive Expands (bound : List (List Char × List Char)) (path : List Char) : List Char → Prop where
  | bound {head rest target : List Char} (headed : Name.IsHeaded path head rest)
      (latest : IsLatest bound head target) : Expands bound path (target ++ rest)
  | free {head rest : List Char} (headed : Name.IsHeaded path head rest)
      (unbound : ∀ binding ∈ bound, binding.1 ≠ head) : Expands bound path path

theorem Name.isHeaded_firstSegment (path : List Char) :
    IsHeaded path (firstSegment path) (path.dropWhile (· != '.')) where
  path_eq := List.takeWhile_append_dropWhile.symm
  noDot := fun member => by simpa using List.mem_takeWhile_imp member
  behind := by
    intro first member
    have stops := List.head?_dropWhile_not (· != '.') path
    rw [Option.mem_def.mp member] at stops
    simpa using stops

/-- There is one way to cut a dotted name behind its first identifier. -/
theorem Name.IsHeaded.eq {path head rest : List Char} (headed : IsHeaded path head rest) :
    firstSegment path = head ∧ path.dropWhile (· != '.') = rest := by
  obtain ⟨rfl, noDot, behind⟩ := headed
  have all : ∀ character ∈ head, (character != '.') = true := by
    intro character member
    exact bne_iff_ne.mpr fun same => noDot (same ▸ member)
  have stops : ∀ first ∈ rest.head?, (first != '.') = false := by
    intro first member
    simpa using behind first member
  have kept : rest.takeWhile (· != '.') = [] := by
    cases rest with
    | nil => rfl
    | cons first more => exact List.takeWhile_cons_of_neg (by simp [stops first rfl])
  unfold firstSegment
  rw [List.takeWhile_append_of_pos all, List.dropWhile_append_of_pos all, kept,
    Text.dropWhile_of_head? stops, List.append_nil]
  exact ⟨rfl, rfl⟩

section Latest

variable {bound : List (List Char × List Char)} {name target : List Char}

theorem IsLatest.mem (latest : IsLatest bound name target) : (name, target) ∈ bound := by
  obtain ⟨earlier, later, rfl, _⟩ := latest
  exact List.mem_append_right _ List.mem_cons_self

theorem lookup_reverse_of_unbound (unbound : ∀ binding ∈ bound, binding.1 ≠ name) :
    bound.reverse.lookup name = none := by
  refine List.lookup_eq_none_iff.mpr fun binding member => ?_
  exact bne_iff_ne.mpr (unbound binding (List.mem_reverse.mp member)).symm

theorem IsLatest.lookup_eq (latest : IsLatest bound name target) :
    bound.reverse.lookup name = some target := by
  obtain ⟨earlier, later, rfl, others⟩ := latest
  rw [List.reverse_append, List.reverse_cons, List.append_assoc, List.lookup_append,
    lookup_reverse_of_unbound others, Option.none_or]
  exact List.lookup_cons_self

theorem IsLatest.unique {other : List Char} (latest : IsLatest bound name target)
    (otherLatest : IsLatest bound name other) : target = other :=
  Option.some.inj (latest.lookup_eq.symm.trans otherLatest.lookup_eq)

/-- A name is unbound, or one of its bindings is the latest. -/
theorem unbound_or_exists_isLatest (bound : List (List Char × List Char)) (name : List Char) :
    (∀ binding ∈ bound, binding.1 ≠ name) ∨ ∃ target, IsLatest bound name target := by
  induction bound using List.reverseRecOn with
  | nil => exact Or.inl nofun
  | append_singleton front last inductionHypothesis =>
    by_cases own : last.1 = name
    · exact Or.inr ⟨last.2, front, [], by rw [← own], nofun⟩
    · rcases inductionHypothesis with unbound | ⟨target, earlier, later, rfl, others⟩
      · refine Or.inl (List.forall_mem_append.mpr ⟨unbound, ?_⟩)
        exact List.forall_mem_singleton.mpr own
      · refine Or.inr ⟨target, earlier, later ++ [last], by simp, ?_⟩
        exact List.forall_mem_append.mpr ⟨others, List.forall_mem_singleton.mpr own⟩

/-- Looking a name up from the latest binding on writes it out as its latest binding says. -/
theorem expands_qualify (bound : List (List Char × List Char)) (path : List Char) :
    Expands bound path (ReferenceReading.qualify bound.reverse path) := by
  have headed := Name.isHeaded_firstSegment path
  unfold ReferenceReading.qualify
  rw [← Name.firstSegment.eq_1]
  rcases unbound_or_exists_isLatest bound (Name.firstSegment path) with unbound | ⟨target, latest⟩
  · rw [lookup_reverse_of_unbound unbound]
    exact .free headed unbound
  · rw [latest.lookup_eq]
    exact .bound headed latest

/-- A dotted name is written out in one way. -/
theorem Expands.unique {path expanded other : List Char} (expands : Expands bound path expanded)
    (otherwise : Expands bound path other) : expanded = other := by
  cases expands with
  | bound headed latest =>
    obtain ⟨rfl, rfl⟩ := headed.eq
    cases otherwise with
    | bound otherHeaded otherLatest =>
      obtain ⟨rfl, rfl⟩ := otherHeaded.eq
      rw [latest.unique otherLatest]
    | free otherHeaded unbound =>
      obtain ⟨rfl, rfl⟩ := otherHeaded.eq
      exact absurd rfl (unbound _ latest.mem)
  | free headed unbound =>
    obtain ⟨rfl, rfl⟩ := headed.eq
    cases otherwise with
    | bound otherHeaded latest =>
      obtain ⟨rfl, rfl⟩ := otherHeaded.eq
      exact absurd rfl (unbound _ latest.mem)
    | free => rfl

end Latest

/-! ### What import statements bind -/

namespace ImportStatement

/-- The names that a statement binds, each with the dotted name that it stands for, in order: a name
that is taken out of a module, by itself or by another name; a module by another name; and of a module
that is taken as it is, the first identifier, which stands for itself. -/
def allBindings : ImportStatement → List (List Char × List Char)
  | ofNames module items =>
    items.map fun item => (item.bound.getD item.name, module ++ '.' :: item.name)
  | ofModules items => items.map fun item =>
    match item.bound with
    | some other => (other, item.name)
    | none => (Name.firstSegment item.name, Name.firstSegment item.name)

end ImportStatement

/-- Of some bindings, those that are noted are all but some that bind a name to itself. -/
inductive AreNoted : List (List Char × List Char) → List (List Char × List Char) → Prop where
  | nil : AreNoted [] []
  | noted (binding : List Char × List Char) {bound noted : List (List Char × List Char)}
      (others : AreNoted bound noted) : AreNoted (binding :: bound) (binding :: noted)
  | passed (name : List Char) {bound noted : List (List Char × List Char)}
      (others : AreNoted bound noted) : AreNoted ((name, name) :: bound) noted

theorem AreNoted.refl (bound : List (List Char × List Char)) : AreNoted bound bound := by
  induction bound with
  | nil => exact .nil
  | cons binding rest inductionHypothesis => exact .noted binding inductionHypothesis

theorem AreNoted.append {bound noted more others : List (List Char × List Char)}
    (front : AreNoted bound noted) (back : AreNoted more others) :
    AreNoted (bound ++ more) (noted ++ others) := by
  induction front with
  | nil => exact back
  | noted binding _ inductionHypothesis => exact .noted binding inductionHypothesis
  | passed name _ inductionHypothesis => exact .passed name inductionHypothesis

/-- A statement is noted to bind all that it binds, but for modules that are taken as they are. -/
theorem ImportStatement.areNoted_bindings (found : ImportStatement) :
    AreNoted found.allBindings found.bindings := by
  cases found with
  | ofNames module items => exact .refl _
  | ofModules items =>
    unfold allBindings bindings
    induction items with
    | nil => exact .nil
    | cons item rest inductionHypothesis =>
      obtain ⟨name, bound⟩ := item
      cases bound with
      | none => exact .passed _ inductionHypothesis
      | some other => exact .noted _ inductionHypothesis

theorem ImportStatement.areNoted_flatMap (imports : List ImportStatement) :
    AreNoted (imports.flatMap allBindings) (imports.flatMap bindings) := by
  induction imports with
  | nil => exact .nil
  | cons found rest inductionHypothesis =>
    rw [List.flatMap_cons, List.flatMap_cons]
    exact found.areNoted_bindings.append inductionHypothesis

theorem isLatest_cons_iff {binding : List Char × List Char}
    {bound : List (List Char × List Char)} {name target : List Char} :
    IsLatest (binding :: bound) name target ↔
      IsLatest bound name target ∨
        binding = (name, target) ∧ ∀ other ∈ bound, other.1 ≠ name := by
  constructor
  · rintro ⟨earlier, later, split, others⟩
    cases earlier with
    | nil =>
      obtain ⟨rfl, rfl⟩ := List.cons.inj split
      exact Or.inr ⟨rfl, others⟩
    | cons _ earlier =>
      obtain ⟨rfl, rfl⟩ := List.cons.inj split
      exact Or.inl ⟨earlier, later, rfl, others⟩
  · rintro (⟨earlier, later, rfl, others⟩ | ⟨rfl, others⟩)
    · exact ⟨binding :: earlier, later, rfl, others⟩
    · exact ⟨[], bound, rfl, others⟩

/-- The latest binding of a name is the latest that is noted, or binds the name to itself. -/
theorem AreNoted.latest {bound noted : List (List Char × List Char)}
    (areNoted : AreNoted bound noted) (name : List Char) :
    (∀ target, IsLatest noted name target →
        IsLatest bound name target ∨ IsLatest bound name name) ∧
      ((∀ binding ∈ noted, binding.1 ≠ name) →
        (∀ binding ∈ bound, binding.1 ≠ name) ∨ IsLatest bound name name) := by
  induction areNoted with
  | nil => exact ⟨fun _ latest => Or.inl latest, fun unbound => Or.inl unbound⟩
  | noted binding _ inductionHypothesis =>
    obtain ⟨ofLatest, ofUnbound⟩ := inductionHypothesis
    constructor
    · intro target latest
      rcases isLatest_cons_iff.mp latest with later | ⟨rfl, unbound⟩
      · exact (ofLatest target later).imp (fun own => isLatest_cons_iff.mpr (Or.inl own))
          fun own => isLatest_cons_iff.mpr (Or.inl own)
      · exact (ofUnbound unbound).imp (fun own => isLatest_cons_iff.mpr (Or.inr ⟨rfl, own⟩))
          fun own => isLatest_cons_iff.mpr (Or.inl own)
    · intro unbound
      obtain ⟨own, others⟩ := List.forall_mem_cons.mp unbound
      exact (ofUnbound others).imp (fun free => List.forall_mem_cons.mpr ⟨own, free⟩)
        fun latest => isLatest_cons_iff.mpr (Or.inl latest)
  | passed other _ inductionHypothesis =>
    obtain ⟨ofLatest, ofUnbound⟩ := inductionHypothesis
    constructor
    · intro target latest
      exact (ofLatest target latest).imp (fun own => isLatest_cons_iff.mpr (Or.inl own))
        fun own => isLatest_cons_iff.mpr (Or.inl own)
    · intro unbound
      rcases ofUnbound unbound with free | latest
      · by_cases own : other = name
        · exact Or.inr (isLatest_cons_iff.mpr (Or.inr ⟨by rw [own], free⟩))
        · exact Or.inl (List.forall_mem_cons.mpr ⟨own, free⟩)
      · exact Or.inr (isLatest_cons_iff.mpr (Or.inl latest))

/-! ### Names that are used -/

/-- The import statements among statements. -/
def importsOf (statements : List ExampleStatement) : List ImportStatement :=
  statements.filterMap fun statement => ImportStatement.ofText? statement.text

/-- A module that is imported as it is binds a name last, where the name is bound to something else
by the latest binding that is noted. -/
def HidesBinding (imports : List ImportStatement) (name : List Char) : Prop :=
  IsLatest (imports.flatMap ImportStatement.allBindings) name name ∧
    ∃ target, IsLatest (imports.flatMap ImportStatement.bindings) name target ∧ target ≠ name

/-- Where reading has come to behind some statements. -/
def ReferenceSearch.reached (search : ReferenceSearch) (before : List ExampleStatement) :
    ReferenceReading :=
  before.foldl (ExampleStatement.read search) ⟨[], #[]⟩

theorem ExampleStatement.boundBy_eq {search : ReferenceSearch}
    (python : search.followsImports = true) (before : List ExampleStatement) :
    boundBy search before = (importsOf before).flatMap ImportStatement.bindings := by
  unfold boundBy importsOf
  induction before with
  | nil => rfl
  | cons statement rest inductionHypothesis =>
    rw [List.flatMap_cons, inductionHypothesis, List.filterMap_cons, bindings, import?,
      if_pos python]
    cases ImportStatement.ofText? statement.text <;> rfl

theorem ReferenceSearch.bindings_reached {search : ReferenceSearch}
    (python : search.followsImports = true) (before : List ExampleStatement) :
    (search.reached before).bindings =
      ((importsOf before).flatMap ImportStatement.bindings).reverse := by
  rw [← ExampleStatement.boundBy_eq python]
  unfold reached
  induction before using List.reverseRecOn with
  | nil => rfl
  | append_singleton front last inductionHypothesis =>
    rw [List.foldl_append]
    exact (ReferenceReading.read_eq inductionHypothesis last).1

/-- A name is written out as the latest of all bindings says, unless that is hidden. -/
theorem expands_iff_not_hidesBinding {imports : List ImportStatement} {path expanded : List Char}
    (expands : Expands (imports.flatMap ImportStatement.bindings) path expanded) :
    Expands (imports.flatMap ImportStatement.allBindings) path expanded ↔
      ¬HidesBinding imports (Name.firstSegment path) := by
  obtain ⟨ofLatest, ofUnbound⟩ :=
    (ImportStatement.areNoted_flatMap imports).latest (Name.firstSegment path)
  cases expands with
  | @bound head rest target headed latest =>
    have whole := headed
    obtain ⟨rfl, rfl⟩ := headed.eq
    constructor
    · rintro expands ⟨ofItself, other, otherLatest, different⟩
      obtain rfl := latest.unique otherLatest
      exact different (List.append_cancel_right (expands.unique (.bound whole ofItself)))
    · intro shown
      rcases ofLatest target latest with own | ofItself
      · exact .bound whole own
      · have same : target = Name.firstSegment path := by
          by_contra different
          exact shown ⟨ofItself, target, latest, different⟩
        exact .bound whole (same ▸ ofItself)
  | @free head rest headed unbound =>
    have whole := headed
    obtain ⟨rfl, rfl⟩ := headed.eq
    refine iff_of_true ?_ ?_
    · rcases ofUnbound unbound with free | ofItself
      · exact .free whole free
      · have expands := Expands.bound whole ofItself
        rwa [← whole.path_eq] at expands
    · rintro ⟨_, target, latest, _⟩
      exact unbound _ latest.mem rfl

/-- Where example code uses a dotted name outside imports, the name is written out as the latest
binding of its first identifier says that reading has noted, in whichever code block that stands;
without one it stays. If the code refers to the package there, a reference with what is written out
is returned for the line. Import statements are read as they are written, and all their bindings are
noted but those of modules that are imported as they are. So what is written out goes by the latest of
all bindings if and only if no such import hides another binding of the name. -/
theorem latest_binding_is_followed {search : ReferenceSearch}
    (python : search.followsImports = true) {sections : List Section}
    {before after : List ExampleStatement} {statement : ExampleStatement}
    (split : search.statements sections = before ++ statement :: after)
    (noImport : ImportStatement.ofText? statement.text = none) {path : List Char}
    (used : path ∈ ExampleCode.names statement.text) :
    ∃ expanded, ReferenceReading.qualify (search.reached before).bindings path = expanded ∧
      Expands ((importsOf before).flatMap ImportStatement.bindings) path expanded ∧
      (Expands ((importsOf before).flatMap ImportStatement.allBindings) path expanded ↔
        ¬HidesBinding (importsOf before) (Name.firstSegment path)) ∧
      (search.isReference expanded = true → ∃ reference ∈ search.references sections,
        reference.text = String.ofList expanded ∧ reference.line = statement.line) ∧
      ∀ earlier ∈ before, ∀ written : ImportStatement, written.IsWritten earlier.text →
        written ∈ importsOf before := by
  refine ⟨_, rfl, ?_⟩
  rw [ReferenceSearch.bindings_reached python]
  have expands := expands_qualify ((importsOf before).flatMap ImportStatement.bindings) path
  refine ⟨expands, expands_iff_not_hidesBinding expands, fun isReference => ?_, ?_⟩
  · have own : ReferenceReading.qualify
        ((importsOf before).flatMap ImportStatement.bindings).reverse path ∈
          statement.paths search before := by
      unfold ExampleStatement.paths ExampleStatement.import?
      rw [if_pos python, noImport, ExampleStatement.boundBy_eq python]
      exact List.mem_map_of_mem used
    have found := ReferenceSearch.key_mem_references_iff.mpr
      ⟨before, statement, after, split, rfl, _, own, isReference, rfl⟩
    obtain ⟨reference, returned, same⟩ := List.mem_map.mp found
    obtain ⟨text, line⟩ := Prod.mk.inj same
    exact ⟨reference, returned, text, line⟩
  · intro earlier member written isWritten
    exact List.mem_filterMap.mpr ⟨earlier, member, isWritten.ofText?_eq⟩

/-- A section with one block of code, whose first fence is on a line. -/
def codeSection (line : Nat) (code : String) : Section where
  kind := .globalExamples
  title := "Examples"
  level := 2
  moduleName := none
  span := ⟨line, line + 9, none⟩
  lines := []
  headings := []
  codeBlocks := [⟨some "py", code, ⟨line, line + 9, none⟩⟩]

/-- A statement on a line of such a section. -/
def codeStatement (line : Nat) (text : String) : ExampleStatement :=
  ⟨.globalExamples, line, text.toList⟩

/-- A search for a package without any names that are allowed. -/
def plainSearch : ReferenceSearch :=
  .ofPackage "d" none []

/-- A name that is bound twice in one code block stands in the next for what it was bound to last,
though a module that is imported as it is comes between. -/
theorem latest_binding_is_followed_across_blocks :
    ∃ expanded,
      plainSearch.statements [codeSection 1 "from d.a import x as h\nfrom d.b import (h)\nimport e",
          codeSection 20 "h.z"] =
        [codeStatement 2 "from d.a import x as h", codeStatement 3 "from d.b import (h)",
          codeStatement 4 "import e"] ++ codeStatement 21 "h.z" :: [] ∧
      expanded = "d.b.h.z".toList ∧
      Expands ((importsOf [codeStatement 2 "from d.a import x as h",
        codeStatement 3 "from d.b import (h)", codeStatement 4 "import e"]).flatMap
          ImportStatement.bindings) "h.z".toList expanded ∧
      ∃ reference ∈ plainSearch.references
          [codeSection 1 "from d.a import x as h\nfrom d.b import (h)\nimport e",
            codeSection 20 "h.z"],
        reference.text = String.ofList expanded ∧ reference.line = 21 := by
  have split : plainSearch.statements
      [codeSection 1 "from d.a import x as h\nfrom d.b import (h)\nimport e",
        codeSection 20 "h.z"] =
      [codeStatement 2 "from d.a import x as h", codeStatement 3 "from d.b import (h)",
        codeStatement 4 "import e"] ++ codeStatement 21 "h.z" :: [] := by
    decide +kernel
  obtain ⟨expanded, found, expands, _, returned, _⟩ := latest_binding_is_followed
    (by decide : plainSearch.followsImports = true) split (by decide +kernel)
    (by decide +kernel : "h.z".toList ∈ ExampleCode.names (codeStatement 21 "h.z").text)
  have written : expanded = "d.b.h.z".toList := by
    rw [← found]
    decide +kernel
  exact ⟨expanded, split, written, expands, returned (by rw [written]; decide +kernel)⟩

/-- Where a name is bound to something of the package, and then the module of that name is imported as
it is, the name still stands for what it was bound to first. -/
theorem plain_import_leaves_earlier_binding :
    let sections := [codeSection 1 "from d import x as os\nimport os\nos.path"]
    let before := [codeStatement 2 "from d import x as os", codeStatement 3 "import os"]
    plainSearch.statements sections = before ++ [codeStatement 4 "os.path"] ∧
      IsLatest ((importsOf before).flatMap ImportStatement.allBindings) "os".toList "os".toList ∧
      ReferenceReading.qualify (plainSearch.reached before).bindings "os.path".toList =
        "d.x.path".toList ∧
      ¬Expands ((importsOf before).flatMap ImportStatement.allBindings) "os.path".toList
        "d.x.path".toList ∧
      (plainSearch.references sections).map (fun reference => (reference.text, reference.line)) =
        [("d.x", 2), ("d.x.path", 4)] := by
  intro sections before
  have latest : IsLatest ((importsOf before).flatMap ImportStatement.allBindings) "os".toList
      "os".toList :=
    ⟨[("os".toList, "d.x".toList)], [], by decide +kernel, nofun⟩
  have headed : Name.IsHeaded "os.path".toList "os".toList ".path".toList :=
    ⟨rfl, by decide, by rintro _ ⟨⟩; rfl⟩
  refine ⟨by decide +kernel, latest, by decide +kernel, fun expands => ?_, by decide +kernel⟩
  have same := expands.unique (.bound headed latest)
  exact absurd same (by decide)

end LlmTxt

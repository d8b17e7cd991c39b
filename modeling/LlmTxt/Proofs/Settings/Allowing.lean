/-
This file shows that the names that are allowed act as a filter. To allow more names takes away the
diagnostics of those references that begin with one of them, and leaves everything else as it is and
where it is. A name is taken without the white space around it, and a blank one counts for nothing;
neither does the import name of the package itself, in letters of either case.

A report is sorted only after the references have been looked for, but what is taken out of a list
before it is sorted is missing from the sorted list and nothing else.
-/

import LlmTxt.Proofs.Example.Allowed
import LlmTxt.Proofs.Example.Places
import LlmTxt.Proofs.Settings.Names
import LlmTxt.Proofs.Validation.Grading

namespace LlmTxt

open Text

/-! ### Documents without code -/

namespace Document

variable (document : Document)

/-- Without code blocks there are no references. -/
theorem references_of_noCode (bare : ∀ part ∈ document.sections, part.codeBlocks = [])
    (allowed : List String) : document.references allowed = [] := by
  have none (search : ReferenceSearch) : search.references document.sections = [] :=
    List.eq_nil_iff_forall_not_mem.mpr <|
      search.forall_mem_references fun part inDocument block inPart => by
        rw [bare part inDocument] at inPart
        cases inPart
  unfold references
  split
  · rfl
  · split_ifs
    · rfl
    · exact none _

/-- Without code blocks it does not matter which names are allowed. -/
theorem findings_of_noCode (bare : ∀ part ∈ document.sections, part.codeBlocks = [])
    (settings : Settings) (allowed : List String) :
    document.findings { settings with allowed } = document.findings settings := by
  have none (index sections : SymbolTable) (names : List String) :
      document.checkReferences index sections names = [] := by
    unfold checkReferences unresolved
    dsimp only
    rw [document.references_of_noCode bare]
    split_ifs <;> rfl
  simp only [findings_eq, stages, none]

end Document

/-! ### Allowing more names -/

/-- The overrides that allow more names. -/
def Overrides.allowing (names : List String) : Overrides :=
  ⟨.none, some (.items (names.map .text)), .none⟩

namespace Settings

/-- More names are never refused, and change nothing but which names are allowed. -/
theorem withOverrides_allowing (settings : Settings) (names : List String) :
    settings.withOverrides (.allowing names) =
      .ok { settings with allowed := (settings.allowed ++ bareNames names).eraseDups } := by
  have given : overridingNames false (some (.items (names.map .text))) = _ :=
    overridingNames_text false (some names)
  unfold withOverrides Overrides.allowing
  rw [given]
  cases names <;> rfl

end Settings

/-! ### What the names silence -/

namespace ReferenceSearch

/-- Whether a name silences a reference to a package: without the white space around it, it is
neither blank nor the import name of the package, and the reference begins with it. -/
def silences (package name : String) (path : List Char) : Bool :=
  let bare := trim name.toList
  !bare.isEmpty && lower bare != importName package.toList && beginsWith path bare

/-- To allow more names is to pass over what these silence. -/
theorem isReference_allowing {package : String} {language : Option String}
    {allowed names : List String} {path : List Char} :
    (ofPackage package language (allowed ++ Settings.bareNames names).eraseDups).isReference path =
      ((ofPackage package language allowed).isReference path &&
        !names.any fun name => silences package name path) := by
  have allowing : (ofPackage package language
        (allowed ++ Settings.bareNames names).eraseDups).isAllowed path =
      ((ofPackage package language allowed).isAllowed path ||
        names.any fun name => silences package name path) := by
    rw [Bool.eq_iff_iff, Bool.or_eq_true, isAllowed_ofPackage_iff, isAllowed_ofPackage_iff,
      List.any_eq_true]
    simp only [List.mem_eraseDups, List.mem_append, Settings.mem_bareNames, silences,
      Bool.and_eq_true, bne_iff_ne, Bool.not_eq_true', List.isEmpty_eq_false_iff]
    constructor
    · rintro ⟨bare, earlier | ⟨name, member, same, filled⟩, other, begins⟩
      · exact Or.inl ⟨bare, earlier, other, begins⟩
      · refine Or.inr ⟨name, member, ?_⟩
        rw [← same]
        exact ⟨⟨by simpa using filled, other⟩, begins⟩
    · rintro (⟨bare, earlier, other, begins⟩ | ⟨name, member, ⟨filled, other⟩, begins⟩)
      · exact ⟨bare, Or.inl earlier, other, begins⟩
      · refine ⟨String.ofList (trim name.toList), Or.inr ⟨name, member, ?_, ?_⟩, ?_⟩
        · exact String.toList_ofList
        · simpa using filled
        · rw [String.toList_ofList]
          exact ⟨other, begins⟩
  have rooted : (ofPackage package language
      (allowed ++ Settings.bareNames names).eraseDups).isRooted path =
        (ofPackage package language allowed).isRooted path := rfl
  rw [isReference, isReference, allowing, rooted, Bool.not_or, Bool.and_assoc]

/-- Two searches for one package differ only in the names that are allowed. -/
theorem ofPackage_with_allowed (package : String) (language : Option String)
    (allowed more : List String) :
    { ofPackage package language allowed with
        allowed := (ofPackage package language more).allowed } =
      ofPackage package language more :=
  rfl

/-- The reading of some sections, with the names that are bound behind them. -/
def reading (search : ReferenceSearch) (sections : List Section) : ReferenceReading :=
  sections.foldl (ReferenceReading.readSection search) ⟨[], #[]⟩

/-- When more names are allowed, the same names are bound, and the references that are found are
those that the names do not silence. -/
theorem reading_allowing (package : String) (language : Option String)
    (allowed names : List String) (sections : List Section) :
    ((ofPackage package language allowed).reading sections).IsThinned
      (fun path => !names.any fun name => silences package name path)
      ((ofPackage package language (allowed ++ Settings.bareNames names).eraseDups).reading
        sections) := by
  have thins (path : List Char) :
      ({ ofPackage package language allowed with
          allowed := (ofPackage package language
            (allowed ++ Settings.bareNames names).eraseDups).allowed } :
        ReferenceSearch).isReference path =
      ((ofPackage package language allowed).isReference path &&
        !names.any fun name => silences package name path) := by
    rw [ofPackage_with_allowed]
    exact isReference_allowing
  have start : ReferenceReading.IsThinned
      (fun path => !names.any fun name => silences package name path) ⟨[], #[]⟩ ⟨[], #[]⟩ :=
    ⟨rfl, rfl⟩
  have thinned := start.readSections thins sections
  rwa [ofPackage_with_allowed] at thinned

end ReferenceSearch

/-- Whether a diagnostic is about a reference that one of some names silences in a document of a
package. -/
def Diagnostic.isSilencedBy (names : List String) (package? : Option String)
    (diagnostic : Diagnostic) : Bool :=
  diagnostic.code == Code.unknownSymbolReference.name &&
    package?.any fun package => diagnostic.symbol.any fun symbol =>
      names.any fun name => ReferenceSearch.silences package name symbol.toList

/-- A report without the diagnostics that some names silence. -/
def Report.silenced (names : List String) (package? : Option String) (report : Report) : Report :=
  { report with diagnostics := report.diagnostics.filter fun diagnostic =>
      !diagnostic.isSilencedBy names package? }

theorem Diagnostic.filter_isSilencedBy_of_isOf {codes : List Code} {diagnostics : List Diagnostic}
    (known : ∀ diagnostic ∈ diagnostics, diagnostic.IsOf codes)
    (others : Code.unknownSymbolReference ∉ codes) (names : List String)
    (package? : Option String) :
    (diagnostics.filter fun diagnostic => !diagnostic.isSilencedBy names package?) =
      diagnostics := by
  refine List.filter_eq_self.mpr fun diagnostic member => ?_
  have different := (known diagnostic member).code_ne others
  simp [isSilencedBy, different]

namespace Document

variable (document : Document) (settings : Settings) (names : List String)

theorem references_allowing (allowed : List String) :
    document.references (allowed ++ Settings.bareNames names).eraseDups =
      (document.references allowed).filter fun reference =>
        !document.package.any fun package =>
          names.any fun name => ReferenceSearch.silences package name reference.text.toList := by
  unfold references
  cases document.package with
  | none => rfl
  | some package =>
    dsimp only
    split
    · rfl
    · exact (ReferenceSearch.reading_allowing package document.language allowed names
        document.sections).references_eq

theorem checkReferences_allowing (index sections : SymbolTable) (allowed : List String) :
    document.checkReferences index sections (allowed ++ Settings.bareNames names).eraseDups =
      (document.checkReferences index sections allowed).filter fun diagnostic =>
        !diagnostic.isSilencedBy names document.package := by
  have silenced (reference : Reference) :
      reference.diagnostic.isSilencedBy names document.package =
        document.package.any fun package =>
          names.any fun name => ReferenceSearch.silences package name reference.text.toList := by
    simp [Diagnostic.isSilencedBy, Reference.diagnostic, Diagnostic.about, Diagnostic.ofCode]
  unfold checkReferences unresolved
  dsimp only
  split
  · rfl
  · rw [references_allowing, List.filter_map, List.filter_filter, List.filter_filter]
    congr 1
    refine List.filter_congr fun reference _ => ?_
    rw [Function.comp_apply, silenced, Bool.and_comm]

/-- What the stages find when more names are allowed is what they find anyway, without what the
names silence. -/
theorem stages_allowing (sections : SymbolTable) {declarations : List Diagnostic}
    (run : document.checkDeclarations = .ok declarations) :
    document.stages
        { settings with allowed := (settings.allowed ++ Settings.bareNames names).eraseDups }
        sections declarations =
      (document.stages settings sections declarations).map
        (List.filter fun diagnostic => !diagnostic.isSilencedBy names document.package) := by
  simp only [stages, List.map_cons, List.map_nil, checkReferences_allowing]
  rw [Diagnostic.filter_isSilencedBy_of_isOf (fun _ => Frontmatter.check_codes) (by decide),
    Diagnostic.filter_isSilencedBy_of_isOf (fun _ => checkSections_codes) (by decide),
    Diagnostic.filter_isSilencedBy_of_isOf (fun _ => checkDeclarations_codes run) (by decide),
    Diagnostic.filter_isSilencedBy_of_isOf (fun _ => SymbolTable.resolve_codes) (by decide)]

/-- What some names silence is never an error. -/
theorem isError_of_isSilencedBy {document : Document} {settings : Settings}
    {sections : SymbolTable} {declarations : List Diagnostic}
    (run : document.checkDeclarations = .ok declarations) {diagnostic : Diagnostic}
    (member : diagnostic ∈ (document.stages settings sections declarations).flatten)
    {names : List String} {package? : Option String}
    (silenced : diagnostic.isSilencedBy names package? = true) : diagnostic.isError = false := by
  obtain ⟨stage, inStages, inStage⟩ := List.mem_flatten.mp member
  obtain ⟨code, -, own, severity⟩ := isGraded_of_mem_stages run inStages inStage
  rw [Diagnostic.isSilencedBy, Bool.and_eq_true, beq_iff_eq, own] at silenced
  rw [Code.name_injective silenced.1] at severity
  rw [Diagnostic.isError, severity]
  rfl

/-- The package that the frontmatter of a text names. -/
def packageOf (text : String) : Option String :=
  match ofText text with
  | .ok (document, _) => document.package
  | .error _ => none

theorem packageOf_eq {text : String} {document : Document} {defect? : Option FatalDefect}
    (read : ofText text = .ok (document, defect?)) : packageOf text = document.package := by
  unfold packageOf
  rw [read]

end Document

/-! ### The report -/

theorem FatalDefect.isSilencedBy_diagnostic (defect : FatalDefect) (names : List String)
    (package? : Option String) : defect.diagnostic.isSilencedBy names package? = false := by
  have different : defect.diagnostic.code ≠ Code.unknownSymbolReference.name :=
    Diagnostic.IsOf.code_ne ⟨defect.code, defect.code_mem_ofFatal, rfl⟩ (by decide)
  simp [Diagnostic.isSilencedBy, different]

/-- A document that passes without what some names silence passes with it. -/
theorem any_isError_filter_isSilencedBy {names : List String} {package? : Option String}
    {diagnostics : List Diagnostic}
    (harmless : ∀ diagnostic ∈ diagnostics, diagnostic.isSilencedBy names package? = true →
      diagnostic.isError = false) :
    (diagnostics.filter fun diagnostic => !diagnostic.isSilencedBy names package?).any
        Diagnostic.isError =
      diagnostics.any Diagnostic.isError := by
  rw [List.any_filter, Bool.eq_iff_iff, List.any_eq_true, List.any_eq_true]
  refine exists_congr fun diagnostic => and_congr_right fun member => ?_
  cases silenced : diagnostic.isSilencedBy names package? with
  | false => simp
  | true => simp [harmless diagnostic member silenced]

/-- To check a text with more names allowed is to check it and to drop what the names silence. -/
theorem validate_allowing (text : String) (settings : Settings) (names : List String)
    (source : Option String) :
    validate text
        { settings with allowed := (settings.allowed ++ Settings.bareNames names).eraseDups }
        source =
      (validate text settings source).map (Report.silenced names (Document.packageOf text)) := by
  unfold validate
  split
  · rfl
  · rename_i document defect read
    simp [Except.map, Report.silenced, Report.ofFatal, defect.isSilencedBy_diagnostic]
  · rename_i document read
    rw [Document.findings_eq, Document.findings_eq]
    cases document.moduleTable with
    | error failure => rfl
    | ok sections =>
      cases declared : document.checkDeclarations with
      | error failure => rfl
      | ok declarations =>
        refine congrArg Except.ok ?_
        have harmless : ∀ diagnostic ∈ (Findings.mk
            (document.stages settings sections declarations)).merged,
            diagnostic.isSilencedBy names document.package = true →
              diagnostic.isError = false := fun diagnostic member =>
          document.isError_of_isSilencedBy declared ((Findings.merged_perm _).mem_iff.mp member)
        dsimp only
        rw [document.stages_allowing settings names sections declared, Document.packageOf_eq read]
        unfold Report.ofFindings Report.silenced
        dsimp only
        rw [← any_isError_filter_isSilencedBy harmless, Findings.filter_merged]
        rfl

/-- The names of a package silence nothing in its document. -/
theorem Report.silenced_eq_self {names : List String} {package : String}
    (own : ∀ name ∈ names, lower (trim name.toList) = ReferenceSearch.importName package.toList)
    (report : Report) : report.silenced names (some package) = report := by
  have kept (path : List Char) :
      (names.any fun name => ReferenceSearch.silences package name path) = false := by
    refine List.any_eq_false.mpr fun name member => ?_
    simp [ReferenceSearch.silences, own name member]
  unfold silenced
  simp only [Diagnostic.isSilencedBy, Option.any_some, kept]
  simp

/-- To allow more names, which is never refused, takes exactly those diagnostics out of the report
on any text that are about a reference which one of the names silences. So it adds none, and the
names that import statements bind stand for what they stood for. The name of the package itself
has no effect. -/
theorem allowing_names_silences_references (text : String) (settings : Settings)
    (names : List String) (source : Option String) :
    ∃ extended, settings.withOverrides (.allowing names) = .ok extended ∧
      validate text extended source =
        (validate text settings source).map (Report.silenced names (Document.packageOf text)) ∧
      (∀ report more, validate text settings source = .ok report →
        validate text extended source = .ok more →
          more.diagnostics.Sublist report.diagnostics) ∧
      (∀ package language (sections : List Section) (path : List Char),
        ReferenceReading.qualify
            ((ReferenceSearch.ofPackage package language extended.allowed).reading
              sections).bindings path =
          ReferenceReading.qualify
            ((ReferenceSearch.ofPackage package language settings.allowed).reading
              sections).bindings path) ∧
      ∀ package, Document.packageOf text = some package →
        (∀ name ∈ names,
          lower (trim name.toList) = ReferenceSearch.importName package.toList) →
        validate text extended source = validate text settings source := by
  have filtered := validate_allowing text settings names source
  refine ⟨_, settings.withOverrides_allowing names, filtered, ?_, ?_, ?_⟩
  · intro report more run moreRun
    rw [filtered, run] at moreRun
    cases moreRun
    exact List.filter_sublist
  · intro package language sections path
    rw [(ReferenceSearch.reading_allowing package language settings.allowed names
      sections).bindings_eq]
  · intro package found own
    rw [filtered, found]
    cases validate text settings source with
    | error failure => rfl
    | ok report => exact congrArg Except.ok (report.silenced_eq_self own)

/-- A text whose example code refers to two parts of its package, to one of them by an alias. -/
def partsText : String :=
  "---\npackage: p\n---\n## Index\n- **m**\n" ++
    "## Examples\n~~~ python\nimport p.n as a\na.x()\np.q()\n~~~\n"

/-- Settings under which no name is allowed. -/
def noneAllowed : Settings :=
  { Settings.default with allowed := [] }

/-- The references that the example code of a text makes. -/
def Document.referencesOf (text : String) (settings : Settings) : Option (List String) :=
  (ofText text).toOption.map fun read => (read.1.references settings.allowed).map Reference.text

theorem allowing_names_silences_references_of_parts :
    ∃ report extended, validate partsText noneAllowed none = .ok report ∧
      noneAllowed.withOverrides (.allowing [" p.n ", ""]) = .ok extended ∧
      Document.referencesOf partsText noneAllowed = some ["p.n", "p.n.x", "p.q"] ∧
      Document.referencesOf partsText extended = some ["p.q"] ∧
      validate partsText extended none =
        .ok (report.silenced [" p.n ", ""] (Document.packageOf partsText)) ∧
      (report.silenced [" p.n ", ""] (Document.packageOf partsText)).diagnostics.Sublist
        report.diagnostics ∧
      ∃ same, noneAllowed.withOverrides (.allowing [" P "]) = .ok same ∧
        validate partsText same none = validate partsText noneAllowed none := by
  obtain ⟨extended, laid, filtered, fewer, -, -⟩ :=
    allowing_names_silences_references partsText noneAllowed [" p.n ", ""] none
  obtain ⟨same, laidSame, -, -, -, unchanged⟩ :=
    allowing_names_silences_references partsText noneAllowed [" P "] none
  have checked : (validate partsText noneAllowed none).toOption.isSome = true := by
    decide +kernel
  cases run : validate partsText noneAllowed none with
  | error failure =>
    rw [run] at checked
    cases checked
  | ok report =>
    rw [run] at filtered
    have extended_eq : extended = { noneAllowed with allowed := ["p.n"] } := by
      rw [Settings.withOverrides_allowing] at laid
      cases laid
      decide +kernel
    refine ⟨report, extended, rfl, laid, by decide +kernel, ?_, filtered,
      fewer report _ run filtered, same, laidSame, ?_⟩
    · rw [extended_eq]
      decide +kernel
    · rw [← run]
      exact unchanged "p" (by decide +kernel) (by decide +kernel)

end LlmTxt

/-
This file compares the two readers of a module name in a document. A module that a bullet of the
Index lists is in the table of the Index under its name. A module section that a heading begins has
the name without the underscores at its ends, and is in the table of the module sections under what
is left, if anything is. So the two tables agree on a module that is listed and documented, as long
as its name neither begins nor ends with an underscore. Where it does, the two readers differ, and
the module is reported as missing on a side where it stands.
-/

import LlmTxt.Proofs.CrossReference.Difference
import LlmTxt.Proofs.Document.Standing
import LlmTxt.Proofs.Symbol.ModuleName

namespace LlmTxt

/-! ### A bullet of the Index -/

namespace OutlineReading

/-- A module of a name has been read. -/
def HasModule (name : String) (reading : OutlineReading) : Prop :=
  ∃ module ∈ reading.modules.toList, module.name = name

variable {name : String} {reading : OutlineReading}

theorem HasModule.modifyModule (has : reading.HasModule name)
    {change : OutlineModule → OutlineModule} (keeps : ∀ module, (change module).name = module.name) :
    (reading.modifyModule change).HasModule name := by
  obtain ⟨module, member, rfl⟩ := has
  obtain ⟨index, bound, rfl⟩ := List.mem_iff_getElem.mp member
  have there : index < (reading.modifyModule change).modules.toList.length := by
    simpa [OutlineReading.modifyModule] using bound
  refine ⟨_, List.getElem_mem there, ?_⟩
  simp only [OutlineReading.modifyModule, Array.getElem_toList, Array.getElem_modify]
  split
  · exact keeps _
  · rfl

theorem HasModule.readTokens (has : reading.HasModule name) (line : Nat) (text : List Char) :
    (reading.readTokens line text).HasModule name := by
  unfold OutlineReading.readTokens
  exact HasModule.modifyModule has fun _ => rfl

theorem HasModule.readModule (has : reading.HasModule name) (line : Nat) (content : List Char) :
    (reading.readModule line content).HasModule name := by
  unfold OutlineReading.readModule
  dsimp only
  split
  · exact has
  · obtain ⟨module, member, same⟩ := has
    refine ⟨module, ?_, same⟩
    split <;> simp [note, member]

theorem HasModule.readCategory (has : reading.HasModule name) (line : Nat) (content : List Char) :
    (reading.readCategory line content).HasModule name := by
  unfold OutlineReading.readCategory
  split
  · exact has
  · dsimp only
    split
    · exact has
    · apply HasModule.readTokens
      exact HasModule.modifyModule has fun _ => rfl

theorem HasModule.readBullet (has : reading.HasModule name) (line : Nat) (bullet : Bullet) :
    (reading.readBullet line bullet).HasModule name := by
  unfold OutlineReading.readBullet readInner
  dsimp only
  split
  · apply HasModule.readModule
    exact has
  · split
    · exact has
    · split
      · apply HasModule.readCategory
        exact has
      · split
        · exact has
        · apply HasModule.readCategory
          exact has

theorem HasModule.readLine (has : reading.HasModule name) (line : SourceLine) :
    (reading.readLine line).HasModule name := by
  unfold OutlineReading.readLine readCode readText
  dsimp only
  split
  · split <;> exact has
  · split
    · exact has
    · split
      · apply HasModule.readBullet
        exact has
      · split
        · exact has
        · split
          · split
            · apply HasModule.readTokens
              exact has
            · exact has
          · exact has

theorem HasModule.foldl (has : reading.HasModule name) (lines : List SourceLine) :
    (lines.foldl OutlineReading.readLine reading).HasModule name := by
  induction lines generalizing reading with
  | nil => exact has
  | cons line rest inductionHypothesis => exact inductionHypothesis (has.readLine line)

/-- A bullet of a module, wherever it stands, adds the module: it is indented less than any other
bullet can be. -/
theorem hasModule_readLine (reading : OutlineReading) {name : List Char}
    (path : Name.isPath name = true) {line : SourceLine} (prose : line.inCode = false)
    (bullet : line.text.toList ∈ ModuleName.bullets name) :
    (reading.readLine line).HasModule (String.ofList name) := by
  obtain ⟨content, found, named⟩ := ModuleName.exists_bullet path bullet
  have filled : line.isBlank = false := ModuleName.isAllBlank_of_mem bullet
  unfold OutlineReading.readLine
  rw [prose, filled, found]
  simp only [OutlineReading.readBullet, OutlineReading.readModule, named, HasModule]
  simp

end OutlineReading

namespace Document

/-- The first Index of a document has a bullet of a module, outside code. -/
def ListsModule (document : Document) (name : List Char) : Prop :=
  ∃ index, document.first? .index = some index ∧
    ∃ line ∈ index.lines, line.inCode = false ∧ line.text.toList ∈ ModuleName.bullets name

theorem contains_indexTable {document : Document} {name : List Char}
    (path : Name.isPath name = true) (lists : document.ListsModule name) :
    document.indexTable.contains (String.ofList name) = true := by
  obtain ⟨index, found, line, member, prose, bullet⟩ := lists
  obtain ⟨before, after, split⟩ := List.append_of_mem member
  have has : (index.lines.foldl OutlineReading.readLine .start).HasModule (String.ofList name) := by
    rw [split, List.foldl_append, List.foldl_cons]
    exact (OutlineReading.hasModule_readLine _ path prose bullet).foldl after
  obtain ⟨module, inOutline, same⟩ := has
  unfold indexTable
  rw [found, SymbolTable.contains_iff]
  exact (SymbolTable.mem_map_fst_foldl_add _ _ _ _ _).mpr
    (Or.inr (List.mem_map.mpr ⟨module, inOutline, same⟩))

/-! ### The heading of a module section -/

/-- A line of a text, outside code, is the heading of the section of a module: of the second level,
or of the third one under the module sections. -/
def HeadsModule (source : Source) (document : Document) (name : List Char) (line : Line) : Prop :=
  ∃ before after, document.bodyLines source = before ++ line :: after ∧ openFence before = none ∧
    ∃ title ∈ ModuleName.titles name,
      line.characters = "## ".toList ++ title ∨
        line.characters = "### ".toList ++ title ∧ IsUnderModules before

/-- The heading of a module section begins one, and names the module without the underscores at the
ends of its name. -/
theorem exists_moduleSection {text : String} {document : Document}
    (read : ofText text = .ok (document, none)) {name : List Char}
    (path : Name.isPath name = true) {line : Line}
    (heads : document.HeadsModule (Source.ofString text) name line) :
    ∃ part ∈ document.sections, part.kind = .moduleSection ∧
      part.moduleName = some (String.ofList (ModuleName.unscored name)) ∧
      part.span.first = line.number := by
  obtain ⟨before, after, split, outside, title, isTitle, written⟩ := heads
  obtain ⟨given, lineCount, body⟩ := exists_readBody read
  have noCode := Reading.code_eq_none_of_openFence given outside
  have begun : (((Reading.start given).readLines before).readLine line).HasBegun .moduleSection
      (some (String.ofList (ModuleName.unscored name))) line.number := by
    have plain := ModuleName.isTitle_of_mem path isTitle
    obtain ⟨level, heading, stands⟩ : ∃ level,
        Heading.ofLine? line.characters = some (level, title) ∧
          (level = 2 ∨ level = 3 ∧ ((Reading.start given).readLines before).inModules = true) := by
      rcases written with second | ⟨third, under⟩
      · have heading : Heading.ofLine? (List.replicate 2 '#' ++ ' ' :: title) = some (2, title) :=
          Heading.ofLine?_title (by decide) (by decide) plain
        exact ⟨2, by rw [second]; exact heading, Or.inl rfl⟩
      · have heading : Heading.ofLine? (List.replicate 3 '#' ++ ' ' :: title) = some (3, title) :=
          Heading.ofLine?_title (by decide) (by decide) plain
        exact ⟨3, by rw [third]; exact heading,
          Or.inr ⟨rfl, Reading.inModules_readLines under given⟩⟩
    rw [Reading.readLine_of_opens noCode (Heading.ofLine?_fence heading) heading
      (ModuleName.classify_of_mem path isTitle stands)]
    exact Reading.hasBegun_openSection _ _ _ _ _ _
  rw [split] at body
  have whole := begun.readLines after
  rw [← Reading.readLines_cons, ← Reading.readLines_append] at whole
  unfold readBody at body
  dsimp only at body
  split at body
  · cases body
  · rw [← Except.ok.inj body]
    exact whole.exists_section

theorem contains_moduleTable {document : Document} {sections : SymbolTable}
    (run : document.moduleTable = .ok sections) {part : Section}
    (member : part ∈ document.sections) (kind : part.kind = .moduleSection) {name : String}
    (named : part.moduleName = some name) (nonempty : name ≠ "") :
    sections.contains name = true := by
  rw [moduleTable_eq] at run
  cases contentsRun : document.moduleContents with
  | error failure => simp [contentsRun, Except.map] at run
  | ok contents =>
    simp only [contentsRun, Except.map, Except.ok.injEq] at run
    have selected : part ∈ document.moduleSections.filter fun part =>
        part.moduleName.getD "" != "" := by
      refine List.mem_filter.mpr ⟨List.mem_filter.mpr ⟨member, beq_iff_eq.mpr kind⟩, ?_⟩
      rw [named]
      exact bne_iff_ne.mpr nonempty
    obtain ⟨content, inContents, own⟩ := exists_mem_of_mapM contentsRun selected
    have module : content.module = name := by
      cases headings : Declaration.ofHeadings none part.headings with
      | error failure => simp [headings, bind, Except.bind] at own
      | ok declarations =>
        simp only [headings, bind, Except.bind, pure, Except.pure, Except.ok.injEq] at own
        rw [← own, named]
        rfl
    rw [← run, SymbolTable.contains_iff]
    exact (SymbolTable.mem_map_fst_foldl_add _ _ _ _ _).mpr
      (Or.inr (List.mem_map.mpr ⟨content, inContents, module⟩))

end Document

/-! ### Modules that are reported -/

namespace SymbolTable

theorem code_of_mem_compareModule {module : String} {listed documented : List SymbolEntry}
    {mismatch : Mismatch} (member : mismatch ∈ compareModule module listed documented) :
    mismatch.code ≠ .moduleMismatch := by
  rcases List.mem_append.mp member with first | second
  · obtain ⟨symbol, _, found⟩ := List.mem_filterMap.mp first
    split at found
    · cases found
      exact nofun
    · split at found
      · cases found
        exact nofun
      · cases found
  · obtain ⟨symbol, _, found⟩ := List.mem_filterMap.mp second
    split at found
    · cases found
    · cases found
      exact nofun

/-- A module is reported as missing only if one table has it and the other has not. -/
theorem contains_ne_of_moduleMismatch {index sections : SymbolTable} {diagnostic : Diagnostic}
    (member : diagnostic ∈ index.resolve sections)
    (code : diagnostic.code = Code.moduleMismatch.name) {module : String}
    (about : diagnostic.symbol = some module) :
    index.contains module ≠ sections.contains module := by
  obtain ⟨mismatch, found, rfl⟩ := List.mem_map.mp member
  have own : mismatch.code = .moduleMismatch := Code.name_injective code
  have symbol : mismatch.symbol = module := Option.some.inj about
  unfold mismatches at found
  simp only [List.mem_append] at found
  rcases found with ((ofIndex | ofSections) | compared) | alone
  · obtain ⟨_, _, ofModule⟩ := List.mem_flatMap.mp ofIndex
    obtain ⟨_, _, rfl⟩ := List.mem_map.mp ofModule
    cases own
  · obtain ⟨_, _, ofModule⟩ := List.mem_flatMap.mp ofSections
    obtain ⟨_, _, rfl⟩ := List.mem_map.mp ofModule
    cases own
  · obtain ⟨entry, inIndex, reported⟩ := List.mem_flatMap.mp compared
    have listed : index.contains entry.1 = true := contains_iff.mpr (List.mem_map_of_mem inIndex)
    split at reported
    · rename_i missing
      have unknown : sections.contains entry.1 = false := by rw [contains, missing]; rfl
      rcases List.mem_cons.mp reported with rfl | names
      · rw [← symbol, show (Mismatch.onlyListed entry.1 _).symbol = entry.1 from rfl, listed,
          unknown]
        exact Bool.false_ne_true.symm
      · split at names
        · cases names
        · rw [List.mem_singleton.mp names] at own
          cases own
    · exact absurd own (code_of_mem_compareModule reported)
  · obtain ⟨entry, inSections, reported⟩ := List.mem_flatMap.mp alone
    have documented : sections.contains entry.1 = true :=
      contains_iff.mpr (List.mem_map_of_mem inSections)
    split at reported
    · cases reported
    · rename_i unknown
      rcases List.mem_cons.mp reported with rfl | names
      · rw [← symbol, show (Mismatch.onlyDocumented entry.1 _).symbol = entry.1 from rfl,
          documented]
        exact unknown
      · split at names
        · cases names
        · rw [List.mem_singleton.mp names] at own
          cases own

end SymbolTable

/-- A module is reported as missing only if one table of the document has it and the other has
not. -/
theorem contains_ne_of_mem_report {text : String} {settings : Settings} {source : Option String}
    {report : Report} (run : validate text settings source = .ok report) {document : Document}
    (read : Document.ofText text = .ok (document, none)) {diagnostic : Diagnostic}
    (member : diagnostic ∈ report.diagnostics)
    (code : diagnostic.code = Code.moduleMismatch.name) {module : String}
    (about : diagnostic.symbol = some module) :
    ∃ sections, document.moduleTable = .ok sections ∧
      document.indexTable.contains module ≠ sections.contains module := by
  rcases validate_cases run with
    ⟨other, defect, otherRead, _⟩ | ⟨other, sections, declarations, otherRead, tableRun,
      declarationsRun, rfl⟩
  · rw [read] at otherRead
    cases otherRead
  · rw [read] at otherRead
    cases otherRead
    refine ⟨sections, tableRun, ?_⟩
    have found := Findings.mem_merged.mp member
    simp only [Document.stages, List.mem_cons, List.not_mem_nil, or_false] at found
    obtain ⟨stage, rfl | rfl | rfl | rfl | rfl, inStage⟩ := found
    · exact absurd code ((Frontmatter.check_codes inStage).code_ne (by decide))
    · exact absurd code ((Document.checkSections_codes inStage).code_ne (by decide))
    · exact absurd code ((Document.checkDeclarations_codes declarationsRun inStage).code_ne
        (by decide))
    · exact SymbolTable.contains_ne_of_moduleMismatch inStage code about
    · exact absurd code ((Document.checkReferences_codes inStage).code_ne (by decide))

/-! ### The two readers -/

/-- A module that is listed under a dotted name is in the table of the Index under this name. The
heading of its section gives the name without the underscores at its ends, and the module is in the
table of the module sections under what is left. So a module that is listed and documented under a
name without underscores at its ends is never reported as missing. -/
theorem module_name_readers (name : List Char) (path : Name.isPath name = true) (text : String)
    (document : Document) (read : Document.ofText text = .ok (document, none)) :
    (document.ListsModule name → document.indexTable.contains (String.ofList name) = true) ∧
    (∀ line, document.HeadsModule (Source.ofString text) name line →
      ∃ part ∈ document.sections, part.kind = .moduleSection ∧
        part.moduleName = some (String.ofList (ModuleName.unscored name)) ∧
        part.span.first = line.number ∧
        (ModuleName.unscored name ≠ [] → ∀ sections, document.moduleTable = .ok sections →
          sections.contains (String.ofList (ModuleName.unscored name)) = true)) ∧
    (ModuleName.unscored name = name ↔ name.head? ≠ some '_' ∧ name.getLast? ≠ some '_') ∧
    (ModuleName.unscored name = name → document.ListsModule name →
      (∃ line, document.HeadsModule (Source.ofString text) name line) →
      ∀ settings source report, validate text settings source = .ok report →
        ∀ diagnostic ∈ report.diagnostics, diagnostic.code = Code.moduleMismatch.name →
          diagnostic.symbol ≠ some (String.ofList name)) := by
  have documented {line : Line} (heads : document.HeadsModule (Source.ofString text) name line) :
      ∃ part ∈ document.sections, part.kind = .moduleSection ∧
        part.moduleName = some (String.ofList (ModuleName.unscored name)) ∧
        part.span.first = line.number ∧
        (ModuleName.unscored name ≠ [] → ∀ sections, document.moduleTable = .ok sections →
          sections.contains (String.ofList (ModuleName.unscored name)) = true) := by
    obtain ⟨part, member, kind, named, first⟩ := Document.exists_moduleSection read path heads
    refine ⟨part, member, kind, named, first, fun nonempty sections run => ?_⟩
    refine Document.contains_moduleTable run member kind named fun empty => nonempty ?_
    exact String.ofList_injective empty
  refine ⟨Document.contains_indexTable path, fun line => documented,
    ModuleName.unscored_eq_self_iff, ?_⟩
  rintro same lists ⟨line, heads⟩ settings source report run diagnostic member code about
  obtain ⟨sections, tableRun, differ⟩ := contains_ne_of_mem_report run read member code about
  obtain ⟨_, _, _, _, _, found⟩ := documented heads
  rw [same] at found
  have nonempty : name ≠ [] := by
    rintro rfl
    cases path
  rw [Document.contains_indexTable path lists, found nonempty sections tableRun] at differ
  exact differ rfl

/-- A text that lists a module with an underscore inside its name and documents it. -/
def innerScoreText : String :=
  "## Index\n- **a_b.c**\n## Module Sections\n### Module: \x60a_b.c\x60\n"

theorem innerScoreText_names :
    ∃ document, Document.ofText innerScoreText = .ok (document, none) ∧
      document.ListsModule "a_b.c".toList ∧
      ∃ line, document.HeadsModule (Source.ofString innerScoreText) "a_b.c".toList line ∧
        line.number = 4 := by
  refine ⟨_, rfl, ⟨_, rfl, ⟨2, "- **a_b.c**", false⟩, ?_, rfl, List.mem_cons_self⟩,
    ⟨4, 40, "### Module: \x60a_b.c\x60".toList⟩, ?_, rfl⟩
  · exact List.mem_cons_self
  · refine ⟨[⟨1, 0, "## Index".toList⟩, ⟨2, 9, "- **a_b.c**".toList⟩,
      ⟨3, 21, "## Module Sections".toList⟩], [], rfl, rfl, _,
      List.mem_cons_of_mem _ List.mem_cons_self, Or.inr ⟨rfl, ?_⟩⟩
    refine ⟨[⟨1, 0, "## Index".toList⟩, ⟨2, 9, "- **a_b.c**".toList⟩], _, [],
      "Module Sections".toList, rfl, rfl, rfl, by decide, ?_⟩
    intro early line late cut
    cases early <;> cases cut

theorem module_name_readers_of_inner_score :
    ∃ document, Document.ofText innerScoreText = .ok (document, none) ∧
      document.indexTable.contains "a_b.c" = true ∧
      (∃ part ∈ document.sections, part.kind = .moduleSection ∧
        part.moduleName = some "a_b.c" ∧ part.span.first = 4) ∧
      ∀ settings source report, validate innerScoreText settings source = .ok report →
        ∀ diagnostic ∈ report.diagnostics, diagnostic.code = Code.moduleMismatch.name →
          diagnostic.symbol ≠ some "a_b.c" := by
  obtain ⟨document, read, lists, line, heads, number⟩ := innerScoreText_names
  obtain ⟨listed, documented, unchanged, quiet⟩ :=
    module_name_readers "a_b.c".toList (by decide) innerScoreText document read
  have unscored : ModuleName.unscored "a_b.c".toList = "a_b.c".toList :=
    unchanged.mpr (by decide)
  obtain ⟨part, member, kind, named, first, _⟩ := documented line heads
  rw [unscored] at named
  rw [number] at first
  exact ⟨document, read, listed lists, ⟨part, member, kind, named, first⟩,
    quiet unscored lists ⟨line, heads⟩⟩

/-- A text that lists a module with an underscore at the beginning of its name and documents it. -/
def outerScoreText : String :=
  "## Index\n- **_m**\n## Module Sections\n### Module: _m\n"

/-- An underscore at an end of the name of a module is lost in the heading of its section. Then the
module that the heading is meant for is reported as one without a section. -/
theorem outer_score_is_lost :
    Name.isPath "_m".toList = true ∧
    ∃ document, Document.ofText outerScoreText = .ok (document, none) ∧
      document.ListsModule "_m".toList ∧
      (∃ line, document.HeadsModule (Source.ofString outerScoreText) "_m".toList line) ∧
      ∃ sections, document.moduleTable = .ok sections ∧ sections.contains "_m" = false ∧
        ∃ report, validate outerScoreText .default none = .ok report ∧
          ∃ diagnostic ∈ report.diagnostics, diagnostic.code = Code.moduleMismatch.name ∧
            diagnostic.symbol = some "_m" := by
  obtain ⟨document, read, lists, heads, sections, tableRun, lost, declarations, declarationsRun,
      found⟩ : ∃ document, Document.ofText outerScoreText = .ok (document, none) ∧
      document.ListsModule "_m".toList ∧
      (∃ line, document.HeadsModule (Source.ofString outerScoreText) "_m".toList line) ∧
      ∃ sections, document.moduleTable = .ok sections ∧ sections.contains "_m" = false ∧
        ∃ declarations, document.checkDeclarations = .ok declarations ∧
          (Mismatch.onlyListed "_m" (.line 2)).diagnostic ∈
            document.indexTable.resolve sections := by
    refine ⟨_, rfl, ⟨_, rfl, ⟨2, "- **_m**", false⟩, ?_, rfl, List.mem_cons_self⟩,
      ⟨⟨4, 37, "### Module: _m".toList⟩, ?_⟩, _, rfl, by decide +kernel, _, rfl,
      by decide +kernel⟩
    · exact List.mem_cons_self
    · refine ⟨[⟨1, 0, "## Index".toList⟩, ⟨2, 9, "- **_m**".toList⟩,
        ⟨3, 18, "## Module Sections".toList⟩], [], rfl, rfl, _, List.mem_cons_self,
        Or.inr ⟨rfl, ?_⟩⟩
      refine ⟨[⟨1, 0, "## Index".toList⟩, ⟨2, 9, "- **_m**".toList⟩], _, [],
        "Module Sections".toList, rfl, rfl, rfl, by decide, ?_⟩
      intro early line late cut
      cases early <;> cases cut
  refine ⟨by decide, document, read, lists, heads, sections, tableRun, lost, _,
    validate_of_read read tableRun declarationsRun .default none,
    (Mismatch.onlyListed "_m" (.line 2)).diagnostic, ?_, rfl, rfl⟩
  refine Findings.mem_merged.mpr ⟨document.indexTable.resolve sections, ?_, found⟩
  simp [Document.stages]

end LlmTxt

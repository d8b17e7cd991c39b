/-
This file shows that the example of a manual makes no reference that is not documented. Its code is
one import statement on each line. Each of these makes one reference, to an object of a module, and
the table of the module sections holds that object. In a document about another language the example
is not looked at.
-/

import LlmTxt.Proofs.Document.Stretches
import LlmTxt.Proofs.Example.Import
import LlmTxt.Proofs.Example.Places
import LlmTxt.Proofs.Example.Resolution
import LlmTxt.Proofs.Manual.Document

namespace LlmTxt.Manual

open Text

variable {manual : Manual}

/-! ### Import lines -/

theorem exists_of_mem_imports {taken : List Char × List Char} (known : taken ∈ manual.imports) :
    Name.isPath taken.1 = true ∧ Name.isIdentifier taken.2 = true := by
  obtain ⟨module, _, moduleName, object, _, objectName⟩ := manual.imports_known taken known
  exact ⟨moduleName ▸ module.path, objectName ▸ object.itself.identifier⟩

/-- An import line holds words, dots and spaces. -/
theorem mem_importLine {taken : List Char × List Char} (known : taken ∈ manual.imports)
    {character : Char} (member : character ∈ importLine taken) :
    (isWord character || character == '.' || character == ' ') = true := by
  obtain ⟨path, identifier⟩ := exists_of_mem_imports known
  have plain (text : List Char)
      (all : text.all (fun character => isWord character || character == ' ') = true)
      (inText : character ∈ text) :
      (isWord character || character == '.' || character == ' ') = true := by
    have own := List.all_eq_true.mp all character inText
    rw [Bool.or_right_comm, own, Bool.true_or]
  rcases List.mem_append.mp member with inWord | member
  · exact plain _ (by decide) inWord
  rcases List.mem_append.mp member with inName | member
  · rcases Name.isWord_or_eq_dot_of_isPath path character inName with word | rfl
    · rw [word, Bool.true_or, Bool.true_or]
    · rfl
  rcases List.mem_append.mp member with inWord | inName
  · exact plain _ (by decide) inWord
  · rw [Name.isWord_of_isIdentifier identifier character inName, Bool.true_or, Bool.true_or]

theorem not_mem_importLine {taken : List Char × List Char} (known : taken ∈ manual.imports)
    {other : Char} (strange : (isWord other || other == '.' || other == ' ') = false) :
    other ∉ importLine taken := by
  intro member
  rw [mem_importLine known member] at strange
  cases strange

/-! ### The code of the example -/

variable (manual) in
/-- The code of the example. -/
def code : List Char :=
  ['\n'].intercalate (manual.imports.map importLine)

theorem isPlain_of_mem_code : ∀ character ∈ manual.code, Noise.IsPlain character := by
  refine (forall_mem_intercalate_iff ?_).mpr fun line inLines character member => ?_
  · intro character member
    rw [List.mem_singleton.mp member]
    exact ⟨by decide, by decide, by decide⟩
  · obtain ⟨taken, known, rfl⟩ := List.mem_map.mp inLines
    have different {other : Char}
        (strange : (isWord other || other == '.' || other == ' ') = false) : character ≠ other := by
      rintro rfl
      exact not_mem_importLine known strange member
    exact ⟨different (by decide), different (by decide), different (by decide)⟩

/-- A line of the code is an import, unless there is none and the line is empty. -/
theorem eq_of_mem_lines {line : List Char} (member : line ∈ splitAt '\n' manual.code) :
    line = [] ∨ ∃ taken ∈ manual.imports, line = importLine taken := by
  unfold code at member
  by_cases empty : manual.imports = []
  · rw [empty] at member
    exact Or.inl (List.mem_singleton.mp member)
  · have pieces : splitAt '\n' (['\n'].intercalate (manual.imports.map importLine)) =
        manual.imports.map importLine := by
      refine splitAt_intercalate (fun piece inPieces => ?_) (by simpa using empty)
      obtain ⟨taken, known, rfl⟩ := List.mem_map.mp inPieces
      exact not_mem_importLine known (by decide)
    rw [pieces] at member
    obtain ⟨taken, known, same⟩ := List.mem_map.mp member
    exact Or.inr ⟨taken, known, same.symm⟩

theorem withoutPrompt_line {line : List Char}
    (shape : line = [] ∨ ∃ taken ∈ manual.imports, line = importLine taken) :
    ExampleCode.withoutPrompt line = line := by
  rcases shape with rfl | ⟨taken, _, rfl⟩ <;> rfl

theorem codeBlocks_examples {block : Block} (same : block.passage = manual.examplePassage) :
    ∃ span, block.part.codeBlocks = [⟨some "python", String.ofList manual.code, span⟩] := by
  obtain ⟨front, blank, split, said, noText⟩ := exists_blank_of_passage same
  obtain ⟨opener, others, rfl, opens, othersSaid⟩ := List.map_eq_cons_iff.mp said
  obtain ⟨inner, last, rfl, innerSaid, lastSaid⟩ := List.map_eq_append_iff.mp othersSaid
  obtain ⟨closer, rfl, closes⟩ := List.map_eq_singleton_iff.mp lastSaid
  have body : block.body = opener :: (inner ++ closer :: blank) := by
    rw [split]
    simp
  have plain : ∀ line ∈ inner, Fence.ofLine? line.characters = none := by
    intro line member
    have inImports : line.characters ∈ manual.imports.map importLine :=
      innerSaid ▸ List.mem_map_of_mem member
    obtain ⟨taken, _, same⟩ := List.mem_map.mp inImports
    rw [← same]
    exact (isInner_importLine taken).1
  have isCode : Body.IsCode ⟨'\x60', 3, "python".toList⟩ opener inner closer := by
    refine ⟨?_, fun line member => ?_, ?_⟩
    · rw [opens]
      decide
    · unfold Fence.isClosedBy
      rw [plain line member]
      rfl
    · rw [closes]
      decide
  have noFence : ∀ line ∈ blank, Fence.ofLine? line.characters = none := by
    intro line member
    rw [noText line member]
    rfl
  have text : "\n".intercalate (inner.map Line.text) = String.ofList manual.code := by
    have texts : (inner.map Line.text).map String.toList = manual.imports.map importLine := by
      rw [← innerSaid, List.map_map]
      refine List.map_congr_left fun line _ => ?_
      exact String.toList_ofList
    refine String.ext ?_
    rw [String.toList_intercalate, texts]
    exact String.toList_ofList.symm
  refine ⟨⟨opener.number, closer.number, some opener.offset⟩, ?_⟩
  rw [Block.part_codeBlocks, body, isCode.codeBlocks_eq, Body.codeBlocks_of_plain noFence, text]
  rfl

/-! ### References -/

/-- A reference is an object that the example imports. -/
def IsImported (manual : Manual) (reference : Reference) : Prop :=
  ∃ taken ∈ manual.imports, reference.text.toList = taken.1 ++ '.' :: taken.2

/-- A line of the example makes no references but to what it imports. -/
theorem all_readStatement {search : ReferenceSearch} (follows : search.followsImports = true)
    {kind : SectionKind} {statement : Nat × List Char}
    (shape : statement.2 = [] ∨ ∃ taken ∈ manual.imports, statement.2 = importLine taken)
    {reading : ReferenceReading} (all : reading.All manual.IsImported) :
    (reading.readStatement search kind statement).All manual.IsImported := by
  obtain ⟨number, line⟩ := statement
  unfold ReferenceReading.readStatement
  dsimp only
  rw [if_pos follows]
  rcases shape with rfl | ⟨taken, known, rfl⟩
  · exact all
  · obtain ⟨path, identifier⟩ := exists_of_mem_imports known
    have found : ImportStatement.ofText? (importLine taken) =
        some (.ofNames taken.1 [⟨taken.2, none⟩]) :=
      ImportStatement.ofText?_import path identifier
    rw [found]
    have bound : ReferenceReading.All manual.IsImported
        { reading with bindings := [(taken.2, taken.1 ++ '.' :: taken.2)] ++ reading.bindings } :=
      all
    refine bound.addAll fun name inImported => ?_
    rw [List.mem_singleton.mp inImported]
    exact ⟨taken, known, String.toList_ofList⟩

variable {blocks : manual.Blocks} {document : Document} {lines : List Line} {closing : Nat}
  (sections : document.sections = frontmatterSection lines closing :: blocks.all.map Block.part)

include sections

/-- All references of a manual are to what its example imports. -/
theorem isImported_of_mem_references (search : ReferenceSearch) :
    ∀ reference ∈ search.references document.sections, manual.IsImported reference := by
  refine search.forall_mem_references fun part inSections codeBlock inPart language statement made
    reading all => ?_
  rw [sections] at inSections
  rcases List.mem_cons.mp inSections with rfl | inBlocks
  · cases inPart
  obtain ⟨block, inAll, rfl⟩ := List.mem_map.mp inBlocks
  rcases List.mem_append.mp inAll with inFront | last
  · have plain := Blocks.plain_of_mem_front inFront
    rw [Block.part_codeBlocks, Body.codeBlocks_of_plain plain] at inPart
    cases inPart
  rw [List.mem_singleton.mp last] at inPart ⊢
  obtain ⟨span, single⟩ := codeBlocks_examples blocks.examples_eq
  rw [single] at inPart
  rw [List.mem_singleton.mp inPart] at language made
  have python : search.language = "python" := (Option.some.inj language).symm
  have follows : search.followsImports = true := beq_iff_eq.mpr python
  refine all_readStatement follows ?_ all
  unfold ExampleCode.statements at made
  dsimp only at made
  rw [if_pos follows, String.toList_ofList, python,
    Noise.sanitize_of_plain isPlain_of_mem_code] at made
  have shapes : ∀ line ∈ (splitAt '\n' manual.code).map ExampleCode.withoutPrompt,
      line = [] ∨ ∃ taken ∈ manual.imports, line = importLine taken := by
    intro line member
    obtain ⟨own, inLines, rfl⟩ := List.mem_map.mp member
    rw [withoutPrompt_line (eq_of_mem_lines inLines)]
    exact eq_of_mem_lines inLines
  refine shapes _ (ExampleCode.mem_of_mem_statementsFrom (fun line member => ?_) made)
  rcases shapes line member with rfl | ⟨taken, known, rfl⟩
  · rfl
  · exact ImportStatement.goesOn_of_not_mem (not_mem_importLine known (by decide))

omit sections in
/-- What the example imports is documented. -/
theorem resolves_of_isImported {index table : SymbolTable}
    (inTable : table.declared = manual.documented) {reference : Reference}
    (isImported : manual.IsImported reference) :
    (Documented.ofTables index table).resolves reference.text.toList = true := by
  obtain ⟨taken, known, text⟩ := isImported
  obtain ⟨module, inModules, moduleName, object, inObjects, objectName⟩ :=
    manual.imports_known taken known
  have entry : (String.ofList module.name, module.symbols.map (·.declared module.name)) ∈
      table.declared := inTable ▸ List.mem_map_of_mem inModules
  obtain ⟨own, inOwn, same⟩ := List.mem_map.mp entry
  obtain ⟨name, symbols⟩ := Prod.mk.inj same
  have itself : (⟨object.kind, object.itself.name, object.itself.signature⟩ : Symbol) ∈
      module.symbols := List.mem_flatMap.mpr ⟨object, inObjects, List.mem_cons_self⟩
  have declared : Symbol.declared module.name
      ⟨object.kind, object.itself.name, object.itself.signature⟩ ∈
        own.2.map SymbolEntry.declared := symbols ▸ List.mem_map_of_mem itself
  obtain ⟨symbol, inSymbols, equal⟩ := List.mem_map.mp declared
  have symbolName : symbol.name.toList = object.itself.name := by
    rw [show symbol.name = String.ofList object.itself.name from congrArg Declared.name equal,
      String.toList_ofList]
  have hasNames := Documented.hasNames_ofTables
    (List.mem_append_right index.modules inOwn)
  rw [text, moduleName, objectName]
  rw [name, String.toList_ofList] at hasNames
  refine Documented.resolves_of_hasNames hasNames object.itself.identifier ?_
  refine List.mem_flatMap.mpr ⟨symbol, inSymbols, ?_⟩
  rw [← symbolName]
  exact List.mem_cons_self

/-- No reference of a manual is without an entry in the table of its module sections. -/
theorem checkReferences_eq_nil {index table : SymbolTable}
    (inTable : table.declared = manual.documented) (allowed : List String) :
    document.checkReferences index table allowed = [] := by
  refine List.map_eq_nil_iff.mpr ?_
  unfold Document.unresolved
  dsimp only
  split
  · rfl
  · refine List.filter_eq_nil_iff.mpr fun reference member => ?_
    unfold Document.references at member
    split at member
    · cases member
    · split at member
      · cases member
      · have isImported := isImported_of_mem_references sections _ reference member
        rw [resolves_of_isImported inTable isImported]
        decide

end LlmTxt.Manual

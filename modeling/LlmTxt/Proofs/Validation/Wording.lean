/-
This file says what the messages of a check tell. A message about the two symbol tables quotes the
modules and the symbols that it is about. So every name that only one of the tables has in a module
is quoted in the report on the document, with the module, whether the other table has the module or
not. A message about two sections quotes what they are and tells the line of the earlier one.
-/

import LlmTxt.Proofs.CrossReference.Alike
import LlmTxt.Proofs.Section.Flagged
import LlmTxt.Proofs.Steps

namespace LlmTxt

/-! ### Texts in a message -/

/-- A text holds some texts, one behind the other. -/
def Tells (text : List Char) : List (List Char) → Prop
  | [] => True
  | first :: rest => ∃ front back, text = front ++ (first ++ back) ∧ Tells back rest

/-- Some texts with a word before each of them and one behind the last. -/
def weave (words : List String) : (texts : List (List Char)) → List Char
  | [] => (words.head?.getD "").toList
  | text :: texts => (words.head?.getD "").toList ++ (text ++ weave words.tail texts)

/-- A name in single quotes. -/
def inQuotes (name : String) : List Char :=
  '\'' :: (name.toList ++ ['\''])

variable {text : List Char} {texts : List (List Char)}

theorem tells_of_eq_weave (words : List String) (woven : text = weave words texts) :
    Tells text texts := by
  induction texts generalizing text words with
  | nil => trivial
  | cons first rest inductionHypothesis => exact ⟨_, _, woven, inductionHypothesis _ rfl⟩

theorem Tells.append_left (tells : Tells text texts) (front : List Char) :
    Tells (front ++ text) texts := by
  cases texts with
  | nil => trivial
  | cons first rest =>
    obtain ⟨before, back, rfl, others⟩ := tells
    exact ⟨front ++ before, back, (List.append_assoc _ _ _).symm, others⟩

theorem Tells.isInfix (tells : Tells text texts) : ∀ own ∈ texts, own <:+: text := by
  induction texts generalizing text with
  | nil => nofun
  | cons first rest inductionHypothesis =>
    obtain ⟨front, back, rfl, others⟩ := tells
    refine List.forall_mem_cons.mpr ⟨⟨front, back, List.append_assoc _ _ _⟩, fun own member => ?_⟩
    rw [← List.append_assoc]
    exact (inductionHypothesis others own member).trans (List.suffix_append _ _).isInfix

/-! ### The symbol tables -/

namespace Mismatch

/-- What a mismatch is about: the names in quotes, the kinds, the table and the line of another
declaration. -/
def told : Mismatch → List (List Char)
  | duplicate source symbol first module =>
    [symbol.kind.name.toList, inQuotes symbol.name, inQuotes module, source.label.toList,
      ("(first on line " ++ toString first.span.first ++ ")").toList]
  | onlyListed module _ | onlyDocumented module _ => [inQuotes module]
  | listedAlone module names _ | documentedAlone module names _ =>
    inQuotes module :: names.map inQuotes
  | undocumented symbol module | unlisted symbol module =>
    [symbol.kind.name.toList, inQuotes symbol.name, inQuotes module]
  | kinds listed documented module =>
    [inQuotes listed.name, inQuotes module, listed.kind.name.toList, documented.kind.name.toList,
      ("on line " ++ toString documented.span.first).toList]

/-- Names with commas between them are quoted one by one. -/
theorem tells_enumerate (names : List String) :
    Tells (enumerate names).toList (names.map inQuotes) := by
  induction names with
  | nil => trivial
  | cons name rest inductionHypothesis =>
    cases rest with
    | nil => exact ⟨[], [], by simp [enumerate, inQuotes], trivial⟩
    | cons next more =>
      have split : (enumerate (name :: next :: more)).toList =
          [] ++ (inQuotes name ++ (", ".toList ++ (enumerate (next :: more)).toList)) := by
        simp [enumerate, inQuotes]
      exact ⟨[], _, split, inductionHypothesis.append_left _⟩

/-- The message of a mismatch tells all that the mismatch is about. -/
theorem tells_message (mismatch : Mismatch) : Tells mismatch.message.toList mismatch.told := by
  unfold message
  cases mismatch
  case listedAlone module names span =>
    refine ⟨"Symbols listed for module ".toList,
      " have no Module Section entries: ".toList ++ (enumerate names).toList, ?_,
      (tells_enumerate names).append_left _⟩
    simp only [inQuotes, String.toList_append, String.reduceToList]
    simp
  case documentedAlone module names span =>
    refine ⟨"Symbols documented for module ".toList,
      " are not listed in the Index: ".toList ++ (enumerate names).toList, ?_,
      (tells_enumerate names).append_left _⟩
    simp only [inQuotes, String.toList_append, String.reduceToList]
    simp
  -- The messages without a list of names are woven from words.
  case' duplicate =>
    refine tells_of_eq_weave ["", " ", " appears more than once in module ", " of ", " ", ""] ?_
  case' onlyListed module span =>
    refine tells_of_eq_weave
      ["Module ", " is listed in the Index but has no '### Module: " ++ module ++ "' section"] ?_
  case' onlyDocumented =>
    refine tells_of_eq_weave ["Module ", " has a Module Section but is not listed in the Index"] ?_
  case' undocumented =>
    refine tells_of_eq_weave
      ["", " ", " is listed in the Index under ", " but has no entry in its Module Section"] ?_
  case' unlisted =>
    refine tells_of_eq_weave
      ["", " ", " is documented in module ", " but not listed in the Index"] ?_
  case' kinds =>
    refine tells_of_eq_weave
      ["", " in ", " is listed as ", " in the Index but documented as ", " ", ""] ?_
  all_goals
    simp only [told, weave, inQuotes, String.toList_append, String.reduceToList]
    simp

end Mismatch

namespace SymbolTable

variable {index sections : SymbolTable} {module name : String} {symbol : SymbolEntry}

theorem mem_resolve_iff (listed : index.IsKeyed) (documented : sections.IsKeyed)
    {diagnostic : Diagnostic} :
    diagnostic ∈ index.resolve sections ↔
      (∃ module ∈ index.moduleNames, ∃ key ∈ index.keys module,
        diagnostic ∈ index.repetitions module key) ∨
      (∃ module ∈ sections.moduleNames, ∃ key ∈ sections.keys module,
        diagnostic ∈ sections.repetitions module key) ∨
      (∃ module ∈ index.moduleNames ∩ sections.moduleNames,
        ∃ name ∈ index.names module ∪ sections.names module,
          diagnostic ∈ index.nameDifference sections module name) ∨
      (∃ module ∈ index.moduleNames \ sections.moduleNames,
        diagnostic ∈ index.listedAlone module) ∨
      ∃ module ∈ sections.moduleNames \ index.moduleNames,
        diagnostic ∈ sections.documentedAlone module := by
  rw [← Multiset.mem_coe, coe_resolve listed documented]
  simp only [difference, Multiset.mem_add, Multiset.mem_sum, Multiset.mem_coe, or_assoc]

/-- A diagnostic of a severity and a code that quotes a module and a name. -/
structure Quotes (severity : Severity) (code : Code) (module name : String)
    (diagnostic : Diagnostic) : Prop where
  severity_eq : diagnostic.severity = severity
  code_eq : diagnostic.code = code.name
  module : inQuotes module <:+: diagnostic.message.toList
  name : inQuotes name <:+: diagnostic.message.toList

theorem quotes_reportedAs {severity : Severity} {code : Code} {span : Span} {mismatch : Mismatch}
    (ofModule : inQuotes module ∈ mismatch.told) (ofName : inQuotes name ∈ mismatch.told) :
    Quotes severity code module name (mismatch.reportedAs severity code span) :=
  ⟨rfl, rfl, mismatch.tells_message.isInfix _ ofModule, mismatch.tells_message.isInfix _ ofName⟩

theorem name_mem_eraseDups (own : index.first? module name = some symbol) :
    name ∈ ((index.symbolsOf module).map (·.name)).eraseDups := by
  rw [List.mem_eraseDups, ← List.mem_toFinset]
  exact mem_names own

variable {severity : Severity} {code : Code} {span : Span} {mismatch : Mismatch}

/-- A mismatch about one symbol quotes its name, if it is all that is reported. -/
theorem exists_quotes_alone (own : index.first? module name = some symbol)
    (ofModule : inQuotes module ∈ mismatch.told) (ofName : inQuotes symbol.name ∈ mismatch.told) :
    ∃ diagnostic ∈ [mismatch.reportedAs severity code span],
      Quotes severity code module name diagnostic := by
  rw [name_of_find? own] at ofName
  exact ⟨_, List.mem_singleton_self _, quotes_reportedAs ofModule ofName⟩

/-- A mismatch about all names of a module is reported if there is one, and quotes each. -/
theorem exists_quotes_together (other : Diagnostic) {names : List String} (inModule : name ∈ names)
    (all : mismatch.told = inQuotes module :: names.map inQuotes) :
    ∃ diagnostic ∈
        other :: if names.isEmpty then [] else [mismatch.reportedAs severity code span],
      Quotes severity code module name diagnostic := by
  have some : ¬names.isEmpty = true := by simpa using List.ne_nil_of_mem inModule
  rw [if_neg some]
  refine ⟨_, List.mem_cons_of_mem _ (List.mem_singleton_self _), quotes_reportedAs ?_ ?_⟩
  · rw [all]
    exact List.mem_cons_self
  · rw [all]
    exact List.mem_cons_of_mem _ (List.mem_map_of_mem inModule)

/-- A name that is listed and not documented is quoted with its module, in an error. -/
theorem exists_quotes_of_listed (listed : index.IsKeyed) (documented : sections.IsKeyed)
    (own : index.first? module name = some symbol) (absent : sections.first? module name = none) :
    ∃ diagnostic ∈ index.resolve sections,
      Quotes .error .undocumentedSymbol module name diagnostic := by
  by_cases inBoth : module ∈ sections.moduleNames
  · have difference : ∃ diagnostic ∈ index.nameDifference sections module name,
        Quotes .error .undocumentedSymbol module name diagnostic := by
      rw [nameDifference, own, absent]
      exact exists_quotes_alone own (by simp [Mismatch.told]) (by simp [Mismatch.told])
    obtain ⟨diagnostic, member, quotes⟩ := difference
    exact ⟨diagnostic, (mem_resolve_iff listed documented).mpr (.inr (.inr (.inl
      ⟨module, Finset.mem_inter.mpr ⟨mem_moduleNames own, inBoth⟩, name,
        Finset.mem_union_left _ (mem_names own), member⟩))), quotes⟩
  · obtain ⟨diagnostic, member, quotes⟩ : ∃ diagnostic ∈ index.listedAlone module,
        Quotes .error .undocumentedSymbol module name diagnostic :=
      exists_quotes_together _ (name_mem_eraseDups own) rfl
    exact ⟨diagnostic, (mem_resolve_iff listed documented).mpr (.inr (.inr (.inr (.inl
      ⟨module, Finset.mem_sdiff.mpr ⟨mem_moduleNames own, inBoth⟩, member⟩)))), quotes⟩

/-- A name that is documented and not listed is quoted with its module, in a warning. -/
theorem exists_quotes_of_documented (listed : index.IsKeyed) (documented : sections.IsKeyed)
    (own : sections.first? module name = some symbol) (absent : index.first? module name = none) :
    ∃ diagnostic ∈ index.resolve sections,
      Quotes .warning .unlistedSymbol module name diagnostic := by
  by_cases inBoth : module ∈ index.moduleNames
  · have difference : ∃ diagnostic ∈ index.nameDifference sections module name,
        Quotes .warning .unlistedSymbol module name diagnostic := by
      rw [nameDifference, own, absent]
      exact exists_quotes_alone own (by simp [Mismatch.told]) (by simp [Mismatch.told])
    obtain ⟨diagnostic, member, quotes⟩ := difference
    exact ⟨diagnostic, (mem_resolve_iff listed documented).mpr (.inr (.inr (.inl
      ⟨module, Finset.mem_inter.mpr ⟨inBoth, mem_moduleNames own⟩, name,
        Finset.mem_union_right _ (mem_names own), member⟩))), quotes⟩
  · obtain ⟨diagnostic, member, quotes⟩ : ∃ diagnostic ∈ sections.documentedAlone module,
        Quotes .warning .unlistedSymbol module name diagnostic :=
      exists_quotes_together _ (name_mem_eraseDups own) rfl
    exact ⟨diagnostic, (mem_resolve_iff listed documented).mpr (.inr (.inr (.inr (.inr
      ⟨module, Finset.mem_sdiff.mpr ⟨mem_moduleNames own, inBoth⟩, member⟩)))), quotes⟩

end SymbolTable

/-- What only one of the two tables of a document has is quoted in its report. -/
theorem validate_quotes {text : String} {settings : Settings} {source : Option String}
    {report : Report} (run : validate text settings source = .ok report) {document : Document}
    (read : Document.ofText text = .ok (document, none)) {sections : SymbolTable}
    (tableRun : document.moduleTable = .ok sections) {module name : String} {symbol : SymbolEntry} :
    (document.indexTable.first? module name = some symbol → sections.first? module name = none →
      ∃ diagnostic ∈ report.diagnostics,
        SymbolTable.Quotes .error .undocumentedSymbol module name diagnostic) ∧
    (sections.first? module name = some symbol → document.indexTable.first? module name = none →
      ∃ diagnostic ∈ report.diagnostics,
        SymbolTable.Quotes .warning .unlistedSymbol module name diagnostic) := by
  have listed := document.indexTable_isKeyed
  have documented := Document.moduleTable_isKeyed tableRun
  have reported : document.indexTable.resolve sections ⊆ report.diagnostics := by
    intro diagnostic member
    rw [← Multiset.mem_coe, SymbolTable.coe_resolve listed documented,
      ← Document.coe_filter_isOfTables run read tableRun, Multiset.mem_coe] at member
    exact (List.mem_filter.mp member).1
  constructor
  · intro own absent
    obtain ⟨diagnostic, member, quotes⟩ :=
      SymbolTable.exists_quotes_of_listed listed documented own absent
    exact ⟨diagnostic, reported member, quotes⟩
  · intro own absent
    obtain ⟨diagnostic, member, quotes⟩ :=
      SymbolTable.exists_quotes_of_documented listed documented own absent
    exact ⟨diagnostic, reported member, quotes⟩

/-! ### Sections -/

namespace Section

/-- What a message about a section tells of the line of an earlier one. -/
def onLine (opening : String) (earlier : Section) : List Char :=
  (opening ++ toString earlier.span.first ++ ")").toList

theorem tells_orderDiagnostic (strict : Bool) (part top : Section) :
    Tells (orderDiagnostic strict part top).message.toList
      [inQuotes part.kind.label, inQuotes top.kind.label, onLine "(line " top] := by
  refine tells_of_eq_weave ["Section ", " should come before ", " ", ""] ?_
  unfold orderDiagnostic Diagnostic.ofCode
  simp only [weave, onLine, inQuotes, String.toList_append, String.reduceToList]
  simp

theorem tells_repetitionDiagnostic (part : Section) (slot : Slot) (first : Section) :
    Tells (repetitionDiagnostic part slot first).message.toList
      [inQuotes slot.label, onLine "(first on line " first] := by
  refine tells_of_eq_weave ["Section ", " appears again ", ""] ?_
  unfold repetitionDiagnostic Diagnostic.ofCode
  simp only [weave, onLine, inQuotes, String.toList_append, String.reduceToList]
  simp

/-- What stands among the first sections stands among all. -/
theorem mem_getElem?_of_take {sections : List Section} {place earlier : Nat} {part : Section}
    (found : part ∈ (sections.take place)[earlier]?) :
    earlier < place ∧ part ∈ sections[earlier]? := by
  rw [List.getElem?_take] at found
  split at found
  · rename_i before
    exact ⟨before, found⟩
  · cases found

/-- Every diagnostic is about a section and the earlier one that is held against it. -/
theorem Reports.exists_of_mem {against : List Section → Section → Nat → Prop}
    {wording : Section → Section → Diagnostic → Prop} {sections : List Section}
    {reports : List (Nat × Nat)} {diagnostics : List Diagnostic}
    (run : Reports against wording sections reports diagnostics) {diagnostic : Diagnostic}
    (member : diagnostic ∈ diagnostics) :
    ∃ (place earlier : Nat) (part first : Section), part ∈ sections[place]? ∧
      first ∈ sections[earlier]? ∧ against (sections.take place) part earlier ∧
      wording part first diagnostic := by
  obtain ⟨⟨place, earlier⟩, reported, part, found, first, isFirst, said⟩ :=
    exists_of_mem_right run.said member
  obtain ⟨other, same, held⟩ := (run.mem_iff place earlier).mp reported
  obtain rfl := Option.some.inj (same.symm.trans found)
  exact ⟨place, earlier, other, first, found, isFirst, held, said⟩

/-- A diagnostic about the order of sections is about a section that comes behind one of a higher
rank. It stands at its heading, quotes what both are, and tells the line of the earlier one. -/
theorem tells_of_mem_checkOrder {strict : Bool} {sections : List Section}
    {diagnostic : Diagnostic} (member : diagnostic ∈ checkOrder strict sections) :
    ∃ (place earlier : Nat) (part top : Section), part ∈ sections[place]? ∧
      top ∈ sections[earlier]? ∧ earlier < place ∧ part.kind.precedes top.kind = true ∧
      diagnostic.span = part.headingSpan ∧
      Tells diagnostic.message.toList
        [inQuotes part.kind.label, inQuotes top.kind.label, onLine "(line " top] := by
  obtain ⟨reports, run⟩ := exists_reports_checkOrder strict sections
  obtain ⟨place, earlier, part, top, found, isTop, behind, rfl⟩ := run.exists_of_mem member
  obtain ⟨rank, own, highest, isFirst, less⟩ := behind
  obtain ⟨other, among, topRank⟩ := isFirst.own
  obtain ⟨before, same⟩ := mem_getElem?_of_take among
  obtain rfl := Option.some.inj (same.symm.trans isTop)
  exact ⟨place, earlier, part, other, found, isTop, before,
    SectionKind.precedes_iff.mpr ⟨rank, own, highest, topRank, less⟩, rfl,
    tells_orderDiagnostic strict part other⟩

/-- A diagnostic about a section that comes again is about one that takes what an earlier one has
taken. It stands at its heading, quotes what is taken, and tells the line of the earlier one. -/
theorem tells_of_mem_checkRepetition {sections : List Section} {diagnostic : Diagnostic}
    (member : diagnostic ∈ checkRepetition sections) :
    ∃ (place earlier : Nat) (part first : Section) (slot : Slot), part ∈ sections[place]? ∧
      first ∈ sections[earlier]? ∧ earlier < place ∧ part.slot? = some slot ∧
      first.slot? = some slot ∧
      diagnostic.span = part.headingSpan ∧
      Tells diagnostic.message.toList [inQuotes slot.label, onLine "(first on line " first] := by
  obtain ⟨reports, run⟩ := exists_reports_checkRepetition sections
  obtain ⟨place, earlier, part, first, found, isFirst, ⟨⟨other, among, takesSame⟩, -⟩, said⟩ :=
    run.exists_of_mem member
  obtain ⟨⟨slot, taken, rfl⟩, -⟩ := said
  obtain ⟨before, same⟩ := mem_getElem?_of_take among
  obtain rfl := Option.some.inj (same.symm.trans isFirst)
  obtain ⟨shared, own, others⟩ := takesSame_iff.mp takesSame
  obtain rfl := Option.some.inj (own.symm.trans taken)
  exact ⟨place, earlier, part, other, shared, found, isFirst, before, own, others, rfl,
    tells_repetitionDiagnostic part shared other⟩

end Section

end LlmTxt

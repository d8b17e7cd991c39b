/-
This file shows what becomes of the reports between two symbol tables when the tables change
roles. What was a listed name without an entry is then an entry that is not listed, at the same
place and about the same symbol, and the other way around; repeated names and modules without a
counterpart are reported as before. Only a conflict of kinds moves, because it is reported where
the first of the two tables has the name.

The difference of two tables is a sum of pieces, so a count of what is reported goes through it
piece by piece, and it is enough to compare a piece with the piece it changes into.
-/

import LlmTxt.Proofs.CrossReference.Difference
import Mathlib.Tactic.Abel

namespace LlmTxt

/-- The code that takes the place of another when two tables change roles. -/
def Code.exchanged : Code → Code
  | .undocumentedSymbol => .unlistedSymbol
  | .unlistedSymbol => .undocumentedSymbol
  | code => code

/-- Where a code is reported, and about which symbol or module. -/
def Code.places (code : Code) (diagnostics : List Diagnostic) :
    Multiset (Span × Option String) :=
  (diagnostics.filter (·.code = code.name)).map fun diagnostic =>
    (diagnostic.span, diagnostic.symbol)

namespace Code

theorem eq_exchanged_iff {own code : Code} : own = code.exchanged ↔ own.exchanged = code := by
  cases own <;> cases code <;> decide

@[simp]
theorem places_nil (code : Code) : code.places [] = 0 :=
  rfl

/-- A mismatch is found under its own code and no other. -/
theorem places_reportedAs (code : Code) (severity : Severity) (own : Code) (span : Span)
    (mismatch : Mismatch) (rest : List Diagnostic) :
    code.places (Mismatch.reportedAs severity own span mismatch :: rest) =
      (if own = code then {(span, some mismatch.symbol)} else 0) + code.places rest := by
  unfold places
  rw [List.filter_cons]
  by_cases same : own = code
  · have found : decide (own.name = code.name) = true := decide_eq_true (congrArg name same)
    rw [if_pos same, Mismatch.reportedAs, if_pos found, List.map_cons, ← Multiset.cons_coe,
      ← Multiset.singleton_add]
  · have other : ¬decide (own.name = code.name) = true :=
      fun equal => same (name_injective (of_decide_eq_true equal))
    rw [if_neg same, zero_add, Mismatch.reportedAs, if_neg other]

/-- The places of a code are counted piece by piece. -/
def placesHom (code : Code) : Multiset Diagnostic →+ Multiset (Span × Option String) where
  toFun diagnostics := (diagnostics.filter (·.code = code.name)).map fun diagnostic =>
    (diagnostic.span, diagnostic.symbol)
  map_zero' := rfl
  map_add' first second := by rw [Multiset.filter_add, Multiset.map_add]

theorem placesHom_coe (code : Code) (diagnostics : List Diagnostic) :
    code.placesHom diagnostics = code.places diagnostics := by
  rfl

end Code

namespace SymbolTable

/-! ### One piece -/

theorem places_repetitions_exchanged (code : Code) (table : SymbolTable) (module : String)
    (key : SymbolKind × String) :
    code.exchanged.places (table.repetitions module key) =
      code.places (table.repetitions module key) := by
  unfold repetitions
  cases table.occurrences module key with
  | nil => rfl
  | cons first later =>
    dsimp only
    induction later with
    | nil => rfl
    | cons symbol rest inductionHypothesis =>
      rw [List.map_cons, Code.places_reportedAs, Code.places_reportedAs, inductionHypothesis,
        if_congr Code.eq_exchanged_iff rfl rfl]
      rfl

theorem places_nameDifference_exchanged {code : Code} (other : code ≠ .kindMismatch)
    (index sections : SymbolTable) (module name : String) :
    code.exchanged.places (sections.nameDifference index module name) =
      code.places (index.nameDifference sections module name) := by
  have kinds : ¬Code.kindMismatch = code := Ne.symm other
  have exchangedKinds : ¬Code.kindMismatch = code.exchanged := mt Code.eq_exchanged_iff.mp kinds
  unfold nameDifference
  cases index.first? module name with
  | none =>
    cases sections.first? module name with
    | none => rfl
    | some documented =>
      rw [Code.places_reportedAs, Code.places_reportedAs, if_congr Code.eq_exchanged_iff rfl rfl]
      rfl
  | some listed =>
    cases sections.first? module name with
    | none =>
      rw [Code.places_reportedAs, Code.places_reportedAs, if_congr Code.eq_exchanged_iff rfl rfl]
      rfl
    | some documented =>
      dsimp only
      split <;> split <;>
        simp only [Code.places_reportedAs, Code.places_nil, if_neg kinds, if_neg exchangedKinds,
          add_zero]

theorem card_places_nameDifference (index sections : SymbolTable) (module name : String) :
    (Code.kindMismatch.places (sections.nameDifference index module name)).card =
      (Code.kindMismatch.places (index.nameDifference sections module name)).card := by
  unfold nameDifference
  cases index.first? module name with
  | none =>
    cases sections.first? module name with
    | none => rfl
    | some documented => rfl
  | some listed =>
    cases sections.first? module name with
    | none => rfl
    | some documented =>
      have exchanged : (documented.kind ≠ listed.kind ∧ documented.kind ≠ .unknown ∧
          listed.kind ≠ .unknown) ↔ (listed.kind ≠ documented.kind ∧ listed.kind ≠ .unknown ∧
          documented.kind ≠ .unknown) := by
        rw [ne_comm, and_comm (b := listed.kind ≠ .unknown)]
      dsimp only
      rw [if_congr exchanged rfl rfl]
      split <;> rfl

theorem places_documentedAlone_exchanged (code : Code) (table : SymbolTable) (module : String) :
    code.exchanged.places (table.documentedAlone module) =
      code.places (table.listedAlone module) := by
  unfold documentedAlone listedAlone
  dsimp only
  rw [Code.places_reportedAs, Code.places_reportedAs, if_congr Code.eq_exchanged_iff rfl rfl]
  congr 1
  split
  · rfl
  · rw [Code.places_reportedAs, Code.places_reportedAs, if_congr Code.eq_exchanged_iff rfl rfl]
    rfl

theorem places_listedAlone_exchanged (code : Code) (table : SymbolTable) (module : String) :
    code.exchanged.places (table.listedAlone module) =
      code.places (table.documentedAlone module) := by
  have back : code.exchanged.exchanged = code := Code.eq_exchanged_iff.mp rfl
  rw [← places_documentedAlone_exchanged code.exchanged, back]

/-! ### The sum of all pieces -/

/-- What is counted alike in every piece and in the piece it changes into is counted alike in the
reports. -/
theorem map_difference_exchanged {Count : Type} [AddCommMonoid Count]
    (before after : Multiset Diagnostic →+ Count)
    (repeated : ∀ (table : SymbolTable) module key,
      after (table.repetitions module key) = before (table.repetitions module key))
    (named : ∀ (index sections : SymbolTable) module name,
      after (sections.nameDifference index module name) =
        before (index.nameDifference sections module name))
    (alone : ∀ (table : SymbolTable) module,
      after (table.listedAlone module) = before (table.documentedAlone module) ∧
        after (table.documentedAlone module) = before (table.listedAlone module))
    (index sections : SymbolTable) :
    after (sections.difference index) = before (index.difference sections) := by
  unfold difference
  simp only [map_add, map_sum, repeated, named, (alone _ _).1, (alone _ _).2]
  rw [Finset.inter_comm]
  simp only [Finset.union_comm (sections.names _)]
  abel

/-- The reports between two tables are what is to be reported about each kind and name, each name
and each module of them, no less and no more. When the tables change roles, names that are listed
alone and names that are documented alone change codes and nothing else, as many kinds are in
conflict, and the rest is reported in the same places. -/
theorem resolve_exact (index sections : SymbolTable) (listed : index.IsKeyed)
    (documented : sections.IsKeyed) :
    (index.resolve sections : Multiset Diagnostic) = index.difference sections ∧
      (∀ code ≠ Code.kindMismatch,
        code.exchanged.places (sections.resolve index) = code.places (index.resolve sections)) ∧
      (Code.kindMismatch.places (sections.resolve index)).card =
        (Code.kindMismatch.places (index.resolve sections)).card := by
  refine ⟨coe_resolve listed documented, ?_, ?_⟩
  · intro code other
    rw [← Code.placesHom_coe, ← Code.placesHom_coe, coe_resolve documented listed,
      coe_resolve listed documented]
    refine map_difference_exchanged _ _ ?_ ?_ ?_ index sections
    · exact places_repetitions_exchanged code
    · exact places_nameDifference_exchanged other
    · exact fun table module => ⟨places_listedAlone_exchanged code table module,
        places_documentedAlone_exchanged code table module⟩
  · rw [← Code.placesHom_coe, ← Code.placesHom_coe, coe_resolve documented listed,
      coe_resolve listed documented]
    refine map_difference_exchanged (Multiset.cardHom.comp Code.kindMismatch.placesHom)
      (Multiset.cardHom.comp Code.kindMismatch.placesHom) ?_ ?_ ?_ index sections
    · exact fun _ _ _ => rfl
    · exact card_places_nameDifference
    · exact fun table module =>
        ⟨congrArg Multiset.card (places_listedAlone_exchanged .kindMismatch table module),
          congrArg Multiset.card (places_documentedAlone_exchanged .kindMismatch table module)⟩

/-- An Index that lists a class twice, a function without an entry and a module without a
section. -/
def hingeIndex : SymbolTable where
  source := .index
  modules := [
    ("hinge", [
      ⟨"hinge", .class_, "Pin", none, .line 11⟩,
      ⟨"hinge", .class_, "Pin", none, .line 12⟩,
      ⟨"hinge", .function, "open", none, .line 13⟩]),
    ("latch", [])]
  moduleSpans := [("hinge", .line 10), ("latch", .line 14)]

/-- Module sections that document an exception in place of the class, a function that is not
listed, and a module that is not listed. -/
def hingeSections : SymbolTable where
  source := .moduleSections
  modules := [
    ("hinge", [
      ⟨"hinge", .exception, "Pin", none, .line 21⟩,
      ⟨"hinge", .function, "close", none, .line 22⟩]),
    ("bolt", [⟨"bolt", .function, "slide", none, .line 31⟩])]
  moduleSpans := [("hinge", .line 20), ("bolt", .line 30)]

theorem resolve_exact_hinge :
    hingeIndex.IsKeyed ∧ hingeSections.IsKeyed ∧
      (hingeIndex.resolve hingeSections).map (fun found => (found.code, found.span.first)) =
        [("DuplicateSymbol", 12), ("KindMismatch", 11), ("UndocumentedSymbol", 13),
          ("UnlistedSymbol", 22), ("ModuleMismatch", 14), ("ModuleMismatch", 30),
          ("UnlistedSymbol", 30)] ∧
      (hingeIndex.resolve hingeSections : Multiset Diagnostic) =
        hingeIndex.difference hingeSections ∧
      (∀ code ≠ Code.kindMismatch,
        code.exchanged.places (hingeSections.resolve hingeIndex) =
          code.places (hingeIndex.resolve hingeSections)) ∧
      (Code.kindMismatch.places (hingeSections.resolve hingeIndex)).card =
        (Code.kindMismatch.places (hingeIndex.resolve hingeSections)).card := by
  have listed : hingeIndex.IsKeyed := by unfold IsKeyed; decide
  have documented : hingeSections.IsKeyed := by unfold IsKeyed; decide
  exact ⟨listed, documented, rfl, resolve_exact hingeIndex hingeSections listed documented⟩

end SymbolTable

end LlmTxt

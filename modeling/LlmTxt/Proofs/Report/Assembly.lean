/-
This file says what a report is made of. Whatever the stages of a check have found is in the report,
and nothing else. It stands there by line, then by severity, the gravest first, and then by code,
character by character; diagnostics that agree in all three stay in the order in which the stages
have found them. Only that order counts, not how the diagnostics are divided among the stages. An
error that a stage has found is an error of the report, and the report is in order exactly if there
is none.
-/

import LlmTxt.Proofs.Report.Sorting
import Mathlib.Data.Prod.Lex
import Mathlib.Data.String.Basic
import Mathlib.Data.List.Lex
import Mathlib.Order.Monotone.Basic

namespace LlmTxt

/-! ### What diagnostics are sorted by -/

namespace Diagnostic

/-- What a diagnostic is sorted by: its line, how grave it is, and its code by the numbers of the
characters. -/
def sortKey (diagnostic : Diagnostic) : ℕ ×ₗ ℕ ×ₗ List ℕ :=
  toLex (diagnostic.span.first,
    toLex (diagnostic.severity.rank, diagnostic.code.toList.map Char.toNat))

/-- Codes are compared by the numbers of their characters. -/
theorem code_le_iff {code other : String} :
    code ≤ other ↔ code.toList.map Char.toNat ≤ other.toList.map Char.toNat := by
  have increasing : StrictMono (List.map Char.toNat) := fun _ _ earlier =>
    List.map_lt (fun _ _ smaller => smaller) earlier
  rw [String.le_iff_toList_le]
  exact increasing.le_iff_le.symm

theorem sortsBefore_iff_sortKey_le {first second : Diagnostic} :
    first.sortsBefore second = true ↔ first.sortKey ≤ second.sortKey := by
  unfold sortKey
  rw [sortsBefore_iff, Prod.Lex.toLex_le_toLex, Prod.Lex.toLex_le_toLex, code_le_iff]

end Diagnostic

/-! ### Stages -/

namespace Findings

/-- What some stages find, one after the other. -/
def ofStages (stages : List (List Diagnostic)) : Findings :=
  stages.foldl add none

theorem stages_foldl_add (findings : Findings) (stages : List (List Diagnostic)) :
    (stages.foldl add findings).stages = findings.stages ++ stages := by
  induction stages generalizing findings with
  | nil => simp
  | cons stage rest inductionHypothesis =>
    rw [List.foldl_cons, inductionHypothesis, add, List.append_assoc, List.singleton_append]

@[simp]
theorem stages_ofStages (stages : List (List Diagnostic)) : (ofStages stages).stages = stages :=
  (stages_foldl_add none stages).trans (List.nil_append stages)

variable {findings : Findings}

theorem merged_sorted :
    findings.merged.Pairwise fun first second => first.sortKey ≤ second.sortKey :=
  (List.pairwise_mergeSort Diagnostic.sortsBefore_trans Diagnostic.sortsBefore_total _).imp
    Diagnostic.sortsBefore_iff_sortKey_le.mp

/-- Diagnostics that agree in what they are sorted by stay in the order in which they were found. -/
theorem filter_merged_of_sortKey (key : ℕ ×ₗ ℕ ×ₗ List ℕ) :
    findings.merged.filter (fun diagnostic => decide (diagnostic.sortKey = key)) =
      findings.stages.flatten.filter fun diagnostic => decide (diagnostic.sortKey = key) := by
  unfold merged
  rw [filter_mergeSort Diagnostic.sortsBefore_trans Diagnostic.sortsBefore_total]
  refine List.mergeSort_of_pairwise (List.pairwise_iff_forall_sublist.mpr fun {first second} part => ?_)
  have own (diagnostic : Diagnostic) (member : diagnostic ∈ [first, second]) :
      diagnostic.sortKey = key :=
    of_decide_eq_true (List.mem_filter.mp (part.subset member)).2
  rw [Diagnostic.sortsBefore_iff_sortKey_le, own first (by simp), own second (by simp)]

/-- What is found does not depend on how it is divided among stages. -/
theorem merged_ofStages_congr {stages others : List (List Diagnostic)}
    (same : others.flatten = stages.flatten) :
    (ofStages others).merged = (ofStages stages).merged := by
  unfold merged
  rw [stages_ofStages, stages_ofStages, same]

end Findings

/-! ### The report -/

namespace Report

/-- Every diagnostic of a report is counted under one severity. -/
theorem count_add_count_add_count (report : Report) :
    report.count .error + report.count .warning + report.count .info =
      report.diagnostics.length := by
  unfold count
  induction report.diagnostics with
  | nil => rfl
  | cons diagnostic rest inductionHypothesis =>
    simp only [List.countP_cons, List.length_cons]
    cases diagnostic.severity <;> simp <;> omega

/-- A report holds what the stages have found and nothing else, sorted by line, severity and code,
and what agrees in these in the order in which it was found. However the same diagnostics are divided
among stages, the report is the same. It is in order exactly if no stage has found an error, which
is to say that it holds none, and its diagnostics are errors, warnings and remarks. -/
theorem holds_findings_stably_sorted (stages : List (List Diagnostic)) (source : Option String) :
    let report := ofFindings (Findings.ofStages stages) source
    report.diagnostics.Perm stages.flatten ∧
      (report.diagnostics.Pairwise fun first second => first.sortKey ≤ second.sortKey) ∧
      (∀ key, report.diagnostics.filter (fun diagnostic => decide (diagnostic.sortKey = key)) =
        stages.flatten.filter fun diagnostic => decide (diagnostic.sortKey = key)) ∧
      (∀ others : List (List Diagnostic), others.flatten = stages.flatten →
        ofFindings (Findings.ofStages others) source = report) ∧
      report.ok = !(Findings.ofStages stages).hasErrors ∧
      report.ok = !report.hasErrors ∧
      report.count .error + report.count .warning + report.count .info =
        report.diagnostics.length := by
  intro report
  have perm := (Findings.ofStages stages).merged_perm
  have ties := (Findings.ofStages stages).filter_merged_of_sortKey
  rw [Findings.stages_ofStages] at perm ties
  refine ⟨perm, Findings.merged_sorted, ties, fun others same => ?_, ?_, rfl,
    report.count_add_count_add_count⟩
  · unfold report ofFindings
    rw [Findings.merged_ofStages_congr same]
  · exact congrArg not (Findings.ofStages stages).any_isError_merged

end Report

end LlmTxt

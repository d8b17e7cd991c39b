/-
This file shows that settings have no say in whether a document passes. They decide on three
kinds of diagnostic only: a language that is not accepted, a section out of order, and a
reference that nothing documents. None of these is an error. A diagnostic of any other kind is
there under all settings or under none, and in the same place among those, because a report is
put together stage by stage and its order compares nothing but the diagnostics themselves.

Whether the order of sections is strict decides on the severity of the diagnostics that report
it, and on nothing else.
-/

import LlmTxt.Proofs.Frontmatter.Defects
import LlmTxt.Proofs.Validation.Stages
import Mathlib.Data.Multiset.Basic

namespace LlmTxt

/-! ### What settings decide on -/

namespace Diagnostic

/-- The codes of the diagnostics on which settings decide. -/
def settingCodes : List Code :=
  [.unexpectedLanguage, .sectionOutOfOrder, .unknownSymbolReference]

/-- Whether a diagnostic is of a kind on which settings decide. -/
def hangsOnSettings (diagnostic : Diagnostic) : Bool :=
  settingCodes.any fun code => code.name == diagnostic.code

/-- Whether a diagnostic is there under all settings or under none: it is an error, or of a kind on
which they do not decide. -/
def isSettled (diagnostic : Diagnostic) : Bool :=
  diagnostic.isError || !diagnostic.hangsOnSettings

/-- A diagnostic under one of the three codes is settled only if it is an error. -/
theorem not_isSettled {diagnostic : Diagnostic} (code : Code)
    (own : diagnostic.code = code.name) (hangs : code ∈ settingCodes)
    (severity : diagnostic.severity ≠ .error) : ¬diagnostic.isSettled = true := by
  have known : diagnostic.hangsOnSettings = true :=
    List.any_eq_true.mpr ⟨code, hangs, beq_iff_eq.mpr own.symm⟩
  simp [isSettled, isError, known, severity]

end Diagnostic

namespace Frontmatter

theorem filter_languageDefects (frontmatter : Frontmatter) (accepted : List String) :
    ((frontmatter.languageDefects accepted).map Defect.diagnostic).filter Diagnostic.isSettled =
      [] := by
  refine List.filter_eq_nil_iff.mpr fun diagnostic member => ?_
  obtain ⟨defect, inDefects, rfl⟩ := List.mem_map.mp member
  obtain ⟨language, _, _, rfl⟩ := mem_languageDefects_iff.mp inDefects
  exact Diagnostic.not_isSettled .unexpectedLanguage rfl (by decide) nofun

/-- The accepted languages decide only on whether the language is reported. -/
theorem filter_check (frontmatter : Option Frontmatter) (first second : List String) :
    (check frontmatter first).filter Diagnostic.isSettled =
      (check frontmatter second).filter Diagnostic.isSettled := by
  cases frontmatter with
  | none => rfl
  | some block =>
    simp only [check, defects, List.map_append, List.filter_append, filter_languageDefects]

end Frontmatter

namespace Section

theorem filter_checkOrder (strict : Bool) (sections : List Section) :
    (checkOrder strict sections).filter Diagnostic.isSettled = [] := by
  refine List.filter_eq_nil_iff.mpr fun diagnostic member => ?_
  obtain ⟨pair, _, rfl⟩ := List.mem_map.mp member
  refine Diagnostic.not_isSettled .sectionOutOfOrder rfl (by decide) ?_
  cases strict <;> simp [orderDiagnostic, Diagnostic.ofCode]

end Section

namespace Document

theorem filter_checkSections (document : Document) (first second : Bool) :
    (document.checkSections first).filter Diagnostic.isSettled =
      (document.checkSections second).filter Diagnostic.isSettled := by
  simp only [checkSections, List.filter_append, Section.filter_checkOrder]

theorem filter_checkReferences (document : Document) (index sections : SymbolTable)
    (allowed : List String) :
    (document.checkReferences index sections allowed).filter Diagnostic.isSettled = [] := by
  refine List.filter_eq_nil_iff.mpr fun diagnostic member => ?_
  obtain ⟨reference, _, rfl⟩ := List.mem_map.mp member
  exact Diagnostic.not_isSettled .unknownSymbolReference rfl (by decide) nofun

/-- What the stages find that is settled hangs on no setting. -/
theorem filter_stages (document : Document) (first second : Settings) (sections : SymbolTable)
    (declarations : List Diagnostic) :
    (document.stages first sections declarations).map (List.filter Diagnostic.isSettled) =
      (document.stages second sections declarations).map (List.filter Diagnostic.isSettled) := by
  simp only [stages, List.map_cons, List.map_nil, filter_checkReferences,
    Frontmatter.filter_check document.frontmatter first.acceptedLanguages second.acceptedLanguages,
    filter_checkSections document first.strictOrder second.strictOrder]

end Document

namespace Report

/-- What a report says that hangs on no setting. -/
def settled (report : Report) : Bool × Bool × List Diagnostic :=
  (report.fatal, report.ok, report.diagnostics.filter Diagnostic.isSettled)

theorem any_isError_filter_isSettled (diagnostics : List Diagnostic) :
    (diagnostics.filter Diagnostic.isSettled).any Diagnostic.isError =
      diagnostics.any Diagnostic.isError := by
  rw [List.any_filter]
  congr 1
  funext diagnostic
  cases isError : diagnostic.isError <;> simp [Diagnostic.isSettled, isError]

/-- Findings that agree in all that is settled make reports that do. -/
theorem settled_ofFindings {first second : Findings} (source : Option String)
    (agree : first.stages.map (List.filter Diagnostic.isSettled) =
      second.stages.map (List.filter Diagnostic.isSettled)) :
    (Report.ofFindings first source).settled = (Report.ofFindings second source).settled := by
  have same : first.merged.filter Diagnostic.isSettled =
      second.merged.filter Diagnostic.isSettled := by
    rw [Findings.filter_merged, Findings.filter_merged]
    unfold Findings.filter
    rw [agree]
  have sameErrors : first.merged.any Diagnostic.isError = second.merged.any Diagnostic.isError := by
    rw [← any_isError_filter_isSettled, same, any_isError_filter_isSettled]
  simp only [settled, ofFindings, same, sameErrors]

end Report

/-- Two checks of one document that differ in their settings agree in all that is settled, and one
is cut short only if the other is. -/
theorem validate_settled (text : String) (source : Option String) (first second : Settings) :
    (validate text first source).map Report.settled =
      (validate text second source).map Report.settled := by
  unfold validate
  split
  · rfl
  · rfl
  · rename_i document read
    rw [Document.findings_eq, Document.findings_eq]
    cases document.moduleTable with
    | error failure => rfl
    | ok sections =>
      cases document.checkDeclarations with
      | error failure => rfl
      | ok declarations =>
        exact congrArg Except.ok (Report.settled_ofFindings source
          (document.filter_stages first second sections declarations))

/-! ### The severity of a section out of order -/

namespace Diagnostic

/-- The same diagnostic, of another severity if it reports a section out of order. -/
def withOrderSeverity (severity : Severity) (diagnostic : Diagnostic) : Diagnostic :=
  if diagnostic.code = Code.sectionOutOfOrder.name then { diagnostic with severity := severity }
  else diagnostic

theorem withOrderSeverity_of_ne {severity : Severity} {diagnostic : Diagnostic}
    (other : diagnostic.code ≠ Code.sectionOutOfOrder.name) :
    diagnostic.withOrderSeverity severity = diagnostic :=
  if_neg other

/-- Diagnostics none of which reports a section out of order stay as they are. -/
theorem map_withOrderSeverity_of_ne {severity : Severity} {diagnostics : List Diagnostic}
    (others : ∀ diagnostic ∈ diagnostics, diagnostic.code ≠ Code.sectionOutOfOrder.name) :
    diagnostics.map (withOrderSeverity severity) = diagnostics := by
  conv_rhs => rw [← List.map_id diagnostics]
  exact List.map_congr_left fun diagnostic member =>
    withOrderSeverity_of_ne (others diagnostic member)

/-- The severity of a section out of order. -/
def orderSeverity (strict : Bool) : Severity :=
  if strict then .warning else .info

end Diagnostic

theorem Section.map_checkOrder (first second : Bool) (sections : List Section) :
    (checkOrder first sections).map
        (Diagnostic.withOrderSeverity (Diagnostic.orderSeverity second)) =
      checkOrder second sections := by
  unfold checkOrder
  rw [List.map_map]
  exact List.map_congr_left fun pair _ => rfl

namespace Document

theorem map_checkSections (document : Document) (first second : Bool) :
    (document.checkSections first).map
        (Diagnostic.withOrderSeverity (Diagnostic.orderSeverity second)) =
      document.checkSections second := by
  unfold checkSections
  simp only [List.map_append, Section.map_checkOrder first second]
  rw [Diagnostic.map_withOrderSeverity_of_ne fun _ member =>
      (checkPresence_codes member).code_ne (by decide),
    Diagnostic.map_withOrderSeverity_of_ne fun _ member =>
      (Section.checkRepetition_codes member).code_ne (by decide),
    Diagnostic.map_withOrderSeverity_of_ne fun diagnostic member => by
      obtain ⟨part, _, inPart⟩ := List.mem_flatMap.mp member
      exact (Section.checkShape_codes inPart).code_ne (by decide)]

/-- To change whether the order is strict is to change the severities of what reports it. -/
theorem map_stages (document : Document) (settings : Settings) (first second : Bool)
    (sections : SymbolTable) (declarations : List Diagnostic)
    (run : document.checkDeclarations = .ok declarations) :
    (document.stages { settings with strictOrder := first } sections declarations).flatten.map
        (Diagnostic.withOrderSeverity (Diagnostic.orderSeverity second)) =
      (document.stages { settings with strictOrder := second } sections declarations).flatten := by
  simp only [stages, List.flatten_cons, List.flatten_nil, List.map_append, List.map_nil,
    map_checkSections document first second]
  rw [Diagnostic.map_withOrderSeverity_of_ne fun _ member =>
      (Frontmatter.check_codes member).code_ne (by decide),
    Diagnostic.map_withOrderSeverity_of_ne fun _ member =>
      (checkDeclarations_codes run member).code_ne (by decide),
    Diagnostic.map_withOrderSeverity_of_ne fun _ member =>
      (SymbolTable.resolve_codes member).code_ne (by decide),
    Diagnostic.map_withOrderSeverity_of_ne fun _ member =>
      (checkReferences_codes member).code_ne (by decide)]

end Document

theorem FatalDefect.code_ne_sectionOutOfOrder (defect : FatalDefect) :
    defect.diagnostic.code ≠ Code.sectionOutOfOrder.name := by
  intro equal
  have same := Code.name_injective equal
  cases defect <;> cases same

/-- The diagnostics of a report with one severity for sections out of order are, but for their
places, those of the report with the other. -/
theorem validate_orderSeverity (text : String) (source : Option String) (settings : Settings)
    (first second : Bool) :
    (validate text { settings with strictOrder := first } source).map (fun report =>
        (report.diagnostics.map
          (Diagnostic.withOrderSeverity (Diagnostic.orderSeverity second)) :
            Multiset Diagnostic)) =
      (validate text { settings with strictOrder := second } source).map (fun report =>
        (report.diagnostics : Multiset Diagnostic)) := by
  unfold validate
  split
  · rfl
  · rename_i document defect read
    simp only [Except.map, Report.ofFatal, List.map_cons, List.map_nil,
      Diagnostic.withOrderSeverity_of_ne defect.code_ne_sectionOutOfOrder]
  · rename_i document read
    rw [Document.findings_eq, Document.findings_eq]
    cases document.moduleTable with
    | error failure => rfl
    | ok sections =>
      cases declarationsRun : document.checkDeclarations with
      | error failure => rfl
      | ok declarations =>
        refine congrArg Except.ok (Quotient.sound ?_)
        refine ((Findings.merged_perm _).map _).trans ?_
        rw [document.map_stages settings first second sections declarations declarationsRun]
        exact (Findings.merged_perm _).symm

/-! ### The verdict -/

/-- What makes a document pass or fail, and what else no setting decides on: whether the report is
that of a fatal defect, whether the document is in order, the errors, and the diagnostics that are
no errors and under none of the three codes, all in their order. -/
structure Verdict where
  fatal : Bool
  ok : Bool
  errors : List Diagnostic
  others : List Diagnostic

/-- The verdict of a report. -/
def Verdict.ofReport (report : Report) : Verdict where
  fatal := report.fatal
  ok := report.ok
  errors := report.diagnostics.filter Diagnostic.isError
  others := report.diagnostics.filter fun diagnostic =>
    !diagnostic.isError && !diagnostic.hangsOnSettings

/-- The verdict can be read off what is settled. -/
theorem Verdict.ofReport_eq (report : Report) :
    ofReport report =
      ⟨report.settled.1, report.settled.2.1, report.settled.2.2.filter Diagnostic.isError,
        report.settled.2.2.filter fun diagnostic => !diagnostic.isError⟩ := by
  simp only [ofReport, Report.settled, List.filter_filter]
  congr 1 <;>
    refine List.filter_congr fun diagnostic _ => ?_ <;>
    cases isError : diagnostic.isError <;> simp [Diagnostic.isSettled, isError]

/-- Settings have no say in the verdict. Whether the order of sections is strict decides on nothing
but the severity of the diagnostics that report it, which are warnings where it is and otherwise
mere remarks. -/
theorem settings_keep_verdict (text : String) (source : Option String) :
    (∀ first second : Settings,
      (validate text first source).map Verdict.ofReport =
        (validate text second source).map Verdict.ofReport) ∧
    ∀ settings : Settings,
      (validate text { settings with strictOrder := true } source).map (fun report =>
          ((report.diagnostics : Multiset Diagnostic),
            (report.diagnostics.map (Diagnostic.withOrderSeverity .info) :
              Multiset Diagnostic))) =
        (validate text { settings with strictOrder := false } source).map (fun report =>
          ((report.diagnostics.map (Diagnostic.withOrderSeverity .warning) :
              Multiset Diagnostic),
            (report.diagnostics : Multiset Diagnostic))) := by
  constructor
  · intro first second
    have agree := validate_settled text source first second
    cases one : validate text first source <;> cases two : validate text second source <;>
      simp only [one, two, Except.map, Except.ok.injEq, Except.error.injEq, reduceCtorEq] at agree ⊢
    · exact agree
    · rw [Verdict.ofReport_eq, Verdict.ofReport_eq, agree]
  · intro settings
    have relaxed := validate_orderSeverity text source settings true false
    have tightened := validate_orderSeverity text source settings false true
    cases strict : validate text { settings with strictOrder := true } source <;>
      cases lax : validate text { settings with strictOrder := false } source <;>
      simp only [strict, lax, Except.map, Except.ok.injEq, Except.error.injEq, reduceCtorEq,
        Prod.mk.injEq] at relaxed tightened ⊢
    · exact relaxed
    · exact ⟨tightened.symm, relaxed⟩

end LlmTxt

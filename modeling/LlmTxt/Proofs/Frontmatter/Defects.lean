/-
This file says what is wrong with a frontmatter, defect by defect: when each of them is reported, and
of which line. What is wrong with the value of a key is put on the line of that key.
-/

import LlmTxt.Proofs.Validation.Stages

namespace LlmTxt.Frontmatter

open Text

variable {frontmatter : Frontmatter} {accepted : List String} {defect : Defect}

/-- What is wrong with a frontmatter that is there. -/
inductive HasDefect (frontmatter : Frontmatter) (accepted : List String) : Defect → Prop
  | faulty {fault : FrontmatterFault} (found : frontmatter.fault = some fault) :
    HasDefect frontmatter accepted
      (.faulty fault ((frontmatter.faultLine.map Span.line).getD frontmatter.span))
  | notText {key typeName : String} (required : key ∈ recognizedKeys)
    (found : frontmatter.invalid.lookup key = some typeName) :
    HasDefect frontmatter accepted (.notText key typeName (frontmatter.spanOf key))
  | missingKey {key : String} (required : key ∈ recognizedKeys)
    (noOther : frontmatter.invalid.lookup key = none) (absent : frontmatter.get? key = none) :
    HasDefect frontmatter accepted (.missingKey key frontmatter.span)
  | emptyPackage (found : frontmatter.get? "package" = some "") :
    HasDefect frontmatter accepted (.emptyPackage (frontmatter.spanOf "package"))
  | unexpectedLanguage {language : String} (found : frontmatter.get? "language" = some language)
    (unknown : ∀ name, Language.canonical (some language) = some name →
      name ∉ acceptedNames accepted) :
    HasDefect frontmatter accepted
      (.unexpectedLanguage language (acceptedNames accepted) (frontmatter.spanOf "language"))
  | invalidVersion {version : String} (found : frontmatter.get? "version" = some version)
    (invalid : Version.isValid version.toList = false) :
    HasDefect frontmatter accepted (.invalidVersion version (frontmatter.spanOf "version"))
  | emptySummary {summary : String} (found : frontmatter.get? "summary" = some summary)
    (blank : isAllBlank summary.toList = true) :
    HasDefect frontmatter accepted (.emptySummary (frontmatter.spanOf "summary"))

/-! ### One kind of defect at a time -/

theorem mem_faultDefects_iff :
    defect ∈ frontmatter.faultDefects ↔ ∃ fault, frontmatter.fault = some fault ∧
      defect = .faulty fault ((frontmatter.faultLine.map Span.line).getD frontmatter.span) := by
  unfold faultDefects
  cases frontmatter.fault <;> simp

/-- What a key holds that is no text comes before its absence. -/
theorem mem_keyDefects_iff {key : String} :
    defect ∈ frontmatter.keyDefects key ↔
      (∃ typeName, frontmatter.invalid.lookup key = some typeName ∧
        defect = .notText key typeName (frontmatter.spanOf key)) ∨
      frontmatter.invalid.lookup key = none ∧ frontmatter.get? key = none ∧
        defect = .missingKey key frontmatter.span := by
  unfold keyDefects
  cases frontmatter.invalid.lookup key with
  | some typeName => simp
  | none => cases frontmatter.get? key <;> simp

theorem mem_packageDefects_iff :
    defect ∈ frontmatter.packageDefects ↔ frontmatter.get? "package" = some "" ∧
      defect = .emptyPackage (frontmatter.spanOf "package") := by
  unfold packageDefects
  split
  · rename_i found
    simp [found]
  · rename_i other
    exact ⟨nofun, fun both => absurd both.1 other⟩

theorem mem_languageDefects_iff :
    defect ∈ frontmatter.languageDefects accepted ↔
      ∃ language, frontmatter.get? "language" = some language ∧
        (∀ name, Language.canonical (some language) = some name →
          name ∉ acceptedNames accepted) ∧
        defect = .unexpectedLanguage language (acceptedNames accepted)
          (frontmatter.spanOf "language") := by
  unfold languageDefects
  cases found : frontmatter.get? "language" with
  | none => simp
  | some language =>
    cases named : Language.canonical (some language) with
    | none => simp [named]
    | some name => by_cases known : name ∈ acceptedNames accepted <;> simp [named, known]

theorem mem_versionDefects_iff :
    defect ∈ frontmatter.versionDefects ↔
      ∃ version, frontmatter.get? "version" = some version ∧
        Version.isValid version.toList = false ∧
        defect = .invalidVersion version (frontmatter.spanOf "version") := by
  unfold versionDefects
  cases frontmatter.get? "version" with
  | none => simp
  | some version => cases valid : Version.isValid version.toList <;> simp [valid]

theorem mem_summaryDefects_iff :
    defect ∈ frontmatter.summaryDefects ↔
      ∃ summary, frontmatter.get? "summary" = some summary ∧
        isAllBlank summary.toList = true ∧
        defect = .emptySummary (frontmatter.spanOf "summary") := by
  unfold summaryDefects
  cases frontmatter.get? "summary" with
  | none => simp
  | some summary => cases blank : isAllBlank summary.toList <;> simp [blank]

/-! ### All defects -/

theorem mem_defects_iff :
    defect ∈ defects (some frontmatter) accepted ↔ HasDefect frontmatter accepted defect := by
  simp only [defects, List.mem_append, List.mem_flatMap, mem_faultDefects_iff, mem_keyDefects_iff,
    mem_packageDefects_iff, mem_languageDefects_iff, mem_versionDefects_iff,
    mem_summaryDefects_iff]
  constructor
  · rintro (((((⟨fault, found, rfl⟩ | ⟨key, required, ⟨typeName, found, rfl⟩ |
        ⟨noOther, absent, rfl⟩⟩) | ⟨found, rfl⟩) | ⟨language, found, unknown, rfl⟩) |
      ⟨version, found, invalid, rfl⟩) | ⟨summary, found, blank, rfl⟩)
    · exact .faulty found
    · exact .notText required found
    · exact .missingKey required noOther absent
    · exact .emptyPackage found
    · exact .unexpectedLanguage found unknown
    · exact .invalidVersion found invalid
    · exact .emptySummary found blank
  · intro has
    cases has with
    | faulty found => exact .inl (.inl (.inl (.inl (.inl ⟨_, found, rfl⟩))))
    | notText required found =>
      exact .inl (.inl (.inl (.inl (.inr ⟨_, required, .inl ⟨_, found, rfl⟩⟩))))
    | missingKey required noOther absent =>
      exact .inl (.inl (.inl (.inl (.inr ⟨_, required, .inr ⟨noOther, absent, rfl⟩⟩))))
    | emptyPackage found => exact .inl (.inl (.inl (.inr ⟨found, rfl⟩)))
    | unexpectedLanguage found unknown => exact .inl (.inl (.inr ⟨_, found, unknown, rfl⟩))
    | invalidVersion found invalid => exact .inl (.inr ⟨_, found, invalid, rfl⟩)
    | emptySummary found blank => exact .inr ⟨_, found, blank, rfl⟩

/-! ### Missing keys -/

/-- A defect that is reported like a missing key is one. -/
theorem HasDefect.of_missingKey (has : HasDefect frontmatter accepted defect) {key : String}
    {span : Span} (same : defect.diagnostic = (Defect.missingKey key span).diagnostic) :
    key ∈ recognizedKeys ∧ frontmatter.invalid.lookup key = none ∧
      frontmatter.get? key = none := by
  have code : defect.code = .missingFrontmatterField :=
    Code.name_injective (congrArg Diagnostic.code same)
  cases has with
  | @missingKey own required noOther absent =>
    have message : "Frontmatter is missing required key '" ++ own ++ "'" =
        "Frontmatter is missing required key '" ++ key ++ "'" := congrArg Diagnostic.message same
    rw [String.append_left_inj, String.append_right_inj] at message
    rw [← message]
    exact ⟨required, noOther, absent⟩
  | _ => cases code

/-- A required key is reported as missing if it holds nothing at all. -/
theorem diagnostic_missingKey_mem_check {key : String} :
    (Defect.missingKey key frontmatter.span).diagnostic ∈ check (some frontmatter) accepted ↔
      key ∈ recognizedKeys ∧ frontmatter.invalid.lookup key = none ∧
        frontmatter.get? key = none := by
  rw [mem_check]
  constructor
  · rintro ⟨defect, member, same⟩
    exact (mem_defects_iff.mp member).of_missingKey same
  · rintro ⟨required, noOther, absent⟩
    exact ⟨_, mem_defects_iff.mpr (.missingKey required noOther absent), rfl⟩

/-! ### Judged values -/

/-- The key whose value a defect judges. -/
def Defect.judgedKey? : Defect → Option String
  | emptyPackage _ => some "package"
  | unexpectedLanguage .. => some "language"
  | invalidVersion .. => some "version"
  | emptySummary _ => some "summary"
  | missing | faulty .. | notText .. | missingKey .. => none

/-- A defect of a value is put on the key of the value. -/
theorem HasDefect.span_eq (has : HasDefect frontmatter accepted defect) {key : String}
    (judges : defect.judgedKey? = some key) : defect.span = frontmatter.spanOf key := by
  cases has <;> cases judges <;> rfl

end LlmTxt.Frontmatter

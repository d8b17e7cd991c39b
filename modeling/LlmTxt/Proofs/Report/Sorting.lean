/-
This file shows that putting a report together keeps the order in which the stages speak. A
report is sorted by line, severity and code, and diagnostics that agree in all three are never
moved past each other. So to pick some diagnostics out of a report is the same as to put a
report together from those alone, whatever else the stages have found.
-/

import LlmTxt.Report
import Mathlib.Data.List.Basic

namespace LlmTxt

/-! ### A part of a sorted list -/

section StableSorting

variable {Item : Type} {before : Item → Item → Bool}

theorem takeWhile_append_of_split {keep : Item → Bool} {front back : List Item}
    (kept : ∀ item ∈ front, keep item = true) (dropped : ∀ item ∈ back, keep item = false) :
    (front ++ back).takeWhile keep = front := by
  rw [List.takeWhile_append_of_pos kept]
  cases back with
  | nil => simp
  | cons item rest => simp [dropped item List.mem_cons_self]

theorem dropWhile_append_of_split {keep : Item → Bool} {front back : List Item}
    (kept : ∀ item ∈ front, keep item = true) (dropped : ∀ item ∈ back, keep item = false) :
    (front ++ back).dropWhile keep = back := by
  rw [List.dropWhile_append_of_pos kept]
  cases back with
  | nil => rfl
  | cons item rest => simp [dropped item List.mem_cons_self]

/-- Sorting puts the first item right behind all that have to come before it. -/
theorem mergeSort_cons_split
    (transitive : ∀ first second third, before first second → before second third →
      before first third)
    (total : ∀ first second, before first second || before second first)
    (item : Item) (items : List Item) :
    ∃ front back, (item :: items).mergeSort before = front ++ item :: back ∧
      items.mergeSort before = front ++ back ∧
      (∀ other ∈ front, (!before item other) = true) ∧
      ∀ other ∈ back, (!before item other) = false := by
  obtain ⟨front, back, whole, rest, passed⟩ := List.mergeSort_cons transitive total item items
  have sorted := List.pairwise_mergeSort transitive total (item :: items)
  rw [whole] at sorted
  have behind := (List.pairwise_cons.mp (List.pairwise_append.mp sorted).2.1).1
  exact ⟨front, back, whole, rest, passed, fun other member => by simp [behind other member]⟩

/-- Sorting and picking out commute. -/
theorem filter_mergeSort
    (transitive : ∀ first second third, before first second → before second third →
      before first third)
    (total : ∀ first second, before first second || before second first)
    (keep : Item → Bool) (items : List Item) :
    (items.mergeSort before).filter keep = (items.filter keep).mergeSort before := by
  induction items with
  | nil => simp
  | cons item rest inductionHypothesis =>
    obtain ⟨front, back, whole, others, passed, behind⟩ :=
      mergeSort_cons_split transitive total item rest
    rw [others, List.filter_append] at inductionHypothesis
    rw [whole, List.filter_append]
    by_cases kept : keep item = true
    · rw [List.filter_cons_of_pos kept, List.filter_cons_of_pos kept]
      obtain ⟨front', back', whole', others', passed', behind'⟩ :=
        mergeSort_cons_split transitive total item (rest.filter keep)
      -- Both cuts are made where the items begin that may stand behind `item`.
      have cut : front.filter keep ++ back.filter keep = front' ++ back' := by
        rw [inductionHypothesis, others']
      have passedKept : ∀ other ∈ front.filter keep, (!before item other) = true :=
        fun other member => passed other (List.mem_of_mem_filter member)
      have behindKept : ∀ other ∈ back.filter keep, (!before item other) = false :=
        fun other member => behind other (List.mem_of_mem_filter member)
      have fronts : front.filter keep = front' := by
        rw [← takeWhile_append_of_split passedKept behindKept, cut,
          takeWhile_append_of_split passed' behind']
      have backs : back.filter keep = back' := by
        rw [← dropWhile_append_of_split passedKept behindKept, cut,
          dropWhile_append_of_split passed' behind']
      rw [whole', fronts, backs]
    · rw [List.filter_cons_of_neg kept, List.filter_cons_of_neg kept, inductionHypothesis]

/-- A sorted list is what is picked out of it and the rest, if nothing that is picked out may stand
behind the rest. -/
theorem filter_append_filter_of_sorted {keep : Item → Bool} {items : List Item}
    (sorted : items.Pairwise fun earlier later => keep later = true → keep earlier = true) :
    items.filter keep ++ (items.filter fun item => !keep item) = items := by
  induction items with
  | nil => rfl
  | cons item rest inductionHypothesis =>
    obtain ⟨first, others⟩ := List.pairwise_cons.mp sorted
    have further := inductionHypothesis others
    cases own : keep item with
    | true =>
      rw [List.filter_cons_of_pos own, List.filter_cons_of_neg (by rw [own]; exact nofun),
        List.cons_append, further]
    | false =>
      have none : rest.filter keep = [] := by
        refine List.filter_eq_nil_iff.mpr fun other member kept => ?_
        rw [first other member kept] at own
        cases own
      rw [none, List.nil_append] at further
      rw [List.filter_cons_of_neg (by rw [own]; exact nofun), none,
        List.filter_cons_of_pos (by rw [own]; rfl), List.nil_append, further]

/-- Sorting puts an item last that has to come behind all others, wherever it stands. -/
theorem mergeSort_last
    (transitive : ∀ first second third, before first second → before second third →
      before first third)
    (total : ∀ first second, before first second || before second first)
    {front back : List Item} {last : Item}
    (behind : ∀ item ∈ front ++ back, before last item = false) :
    (front ++ last :: back).mergeSort before = (front ++ back).mergeSort before ++ [last] := by
  have own : before last last = true := by simpa using total last last
  have others : ∀ item ∈ front ++ back, (!before last item) = true := fun item member => by
    rw [behind item member]
    rfl
  have earlier : (front ++ last :: back).filter (fun item => !before last item) = front ++ back := by
    rw [List.filter_append, List.filter_cons_of_neg (by rw [own]; exact nofun),
      ← List.filter_append, List.filter_eq_self.mpr others]
  have later : (front ++ last :: back).filter (fun item => !!before last item) = [last] := by
    have none : (front ++ back).filter (fun item => !!before last item) = [] := by
      refine List.filter_eq_nil_iff.mpr fun item member => ?_
      rw [others item member]
      exact nofun
    rw [List.filter_append] at none
    obtain ⟨inFront, inBack⟩ := List.append_eq_nil_iff.mp none
    rw [List.filter_append, inFront, List.filter_cons_of_pos (by rw [own]; rfl), inBack,
      List.nil_append]
  have sorted : ((front ++ last :: back).mergeSort before).Pairwise fun item other =>
      (!before last other) = true → (!before last item) = true := by
    refine (List.pairwise_mergeSort transitive total _).imp fun {item other} order absent => ?_
    rw [Bool.not_eq_true'] at absent ⊢
    refine Bool.eq_false_iff.mpr fun present => ?_
    rw [transitive _ _ _ present order] at absent
    cases absent
  rw [← filter_append_filter_of_sorted sorted, filter_mergeSort transitive total,
    filter_mergeSort transitive total, earlier, later, List.mergeSort_singleton]

end StableSorting

/-! ### The order of a report -/

namespace Diagnostic

theorem sortsBefore_iff (first second : Diagnostic) :
    first.sortsBefore second = true ↔
      first.span.first < second.span.first ∨
        first.span.first = second.span.first ∧
          (first.severity.rank < second.severity.rank ∨
            first.severity.rank = second.severity.rank ∧ first.code ≤ second.code) := by
  simp [sortsBefore]

theorem sortsBefore_trans (first second third : Diagnostic)
    (firstSecond : first.sortsBefore second) (secondThird : second.sortsBefore third) :
    first.sortsBefore third := by
  rw [sortsBefore_iff] at *
  rcases firstSecond with line | ⟨line, rank | ⟨rank, code⟩⟩ <;>
    rcases secondThird with line' | ⟨line', rank' | ⟨rank', code'⟩⟩
  all_goals first
    | exact Or.inl (by omega)
    | exact Or.inr ⟨by omega, Or.inl (by omega)⟩
    | exact Or.inr ⟨by omega, Or.inr ⟨by omega, String.le_trans code code'⟩⟩

theorem sortsBefore_total (first second : Diagnostic) :
    first.sortsBefore second || second.sortsBefore first := by
  rw [Bool.or_eq_true, sortsBefore_iff, sortsBefore_iff]
  rcases Nat.lt_trichotomy first.span.first second.span.first with line | line | line
  · exact Or.inl (Or.inl line)
  · rcases Nat.lt_trichotomy first.severity.rank second.severity.rank with rank | rank | rank
    · exact Or.inl (Or.inr ⟨line, Or.inl rank⟩)
    · rcases String.le_total first.code second.code with code | code
      · exact Or.inl (Or.inr ⟨line, Or.inr ⟨rank, code⟩⟩)
      · exact Or.inr (Or.inr ⟨line.symm, Or.inr ⟨rank.symm, code⟩⟩)
    · exact Or.inr (Or.inr ⟨line.symm, Or.inl rank⟩)
  · exact Or.inr (Or.inl line)

end Diagnostic

namespace Findings

/-- The findings of some kind alone. -/
def filter (findings : Findings) (keep : Diagnostic → Bool) : Findings :=
  ⟨findings.stages.map (List.filter keep)⟩

/-- What a report says of some kind is what the stages have found of that kind. -/
theorem filter_merged (findings : Findings) (keep : Diagnostic → Bool) :
    findings.merged.filter keep = (findings.filter keep).merged := by
  unfold merged filter
  rw [filter_mergeSort Diagnostic.sortsBefore_trans Diagnostic.sortsBefore_total,
    List.filter_flatten]

theorem merged_perm (findings : Findings) : findings.merged.Perm findings.stages.flatten :=
  List.mergeSort_perm _ _

theorem any_isError_merged (findings : Findings) :
    findings.merged.any Diagnostic.isError = findings.hasErrors := by
  rw [findings.merged_perm.any_eq, List.any_flatten]
  rfl

/-- What is found besides comes last in a report if it has to come behind all else, whichever stage
has found it. -/
theorem merged_last {stages whole : List (List Diagnostic)} {front back : List Diagnostic}
    {last : Diagnostic} (flat : stages.flatten = front ++ back)
    (wholeFlat : whole.flatten = front ++ last :: back)
    (behind : ∀ diagnostic ∈ stages.flatten, last.sortsBefore diagnostic = false) :
    merged ⟨whole⟩ = merged ⟨stages⟩ ++ [last] := by
  rw [flat] at behind
  unfold merged
  rw [flat, wholeFlat]
  exact mergeSort_last Diagnostic.sortsBefore_trans Diagnostic.sortsBefore_total behind

theorem mem_merged {findings : Findings} {diagnostic : Diagnostic} :
    diagnostic ∈ findings.merged ↔ ∃ stage ∈ findings.stages, diagnostic ∈ stage := by
  rw [findings.merged_perm.mem_iff, List.mem_flatten]

end Findings

end LlmTxt

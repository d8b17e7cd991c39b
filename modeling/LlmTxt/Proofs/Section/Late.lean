/-
This file says which sections are reported as out of order. The check holds each section against
those before it. It keeps the highest section so far, and passes over sections that come late; but
these are lower than the highest one, so it is the first section of the highest rank among all that
have been read, late ones included. A section is out of order exactly if some section before it has
a higher rank, and without the late sections nothing is out of order.
-/

import LlmTxt.Proofs.Section.Conforming
import Mathlib.Data.List.Induction

namespace LlmTxt

namespace SectionKind

variable {kind other : SectionKind}

theorem precedes_iff :
    kind.precedes other = true ↔ ∃ rank ∈ kind.rank, ∃ otherRank ∈ other.rank, rank < otherRank := by
  unfold precedes
  cases kind.rank <;> cases other.rank <;> simp

end SectionKind

namespace Section

/-! ### Reports on sections -/

/-- The reports of a check that holds each section against those before it: pairs of places, of a
section and of the earlier one that is held against it, in the order of the sections. `against` says
which section among those before a section is held against it, and `wording` how the two are
reported. -/
structure Reports (against : List Section → Section → Nat → Prop)
    (wording : Section → Section → Diagnostic → Prop) (sections : List Section)
    (reports : List (Nat × Nat)) (diagnostics : List Diagnostic) : Prop where
  ordered : reports.Pairwise fun report later => report.1 < later.1
  mem_iff : ∀ place earlier, (place, earlier) ∈ reports ↔
    ∃ part ∈ sections[place]?, against (sections.take place) part earlier
  said : List.Forall₂ (fun report diagnostic => ∃ part ∈ sections[report.1]?,
    ∃ earlier ∈ sections[report.2]?, wording part earlier diagnostic) reports diagnostics

section Run

variable {against : List Section → Section → Nat → Prop}
  {wording : Section → Section → Diagnostic → Prop} {front : List Section} {part : Section}
  {reports : List (Nat × Nat)} {diagnostics : List Diagnostic}

theorem Reports.nil : Reports against wording [] [] [] := by
  refine ⟨List.Pairwise.nil, fun place earlier => ⟨nofun, ?_⟩, List.Forall₂.nil⟩
  rintro ⟨_, ⟨⟩, _⟩

/-- What stands somewhere with one more section at the end. -/
theorem mem_getElem?_concat_iff {place : Nat} {other : Section} :
    other ∈ (front ++ [part])[place]? ↔
      other ∈ front[place]? ∨ place = front.length ∧ part = other := by
  rcases Nat.lt_trichotomy place front.length with before | rfl | behind
  · rw [List.getElem?_append_left before]
    simp [Nat.ne_of_lt before]
  · simp
  · have none : (front ++ [part])[place]? = none := by
      rw [List.getElem?_eq_none_iff, List.length_append]
      exact behind
    rw [none, List.getElem?_eq_none_iff.mpr (Nat.le_of_lt behind)]
    simp [Nat.ne_of_gt behind]

/-- What is held against the sections but the last does not depend on the last. -/
theorem exists_against_concat_iff (place earlier : Nat) :
    (∃ other ∈ (front ++ [part])[place]?, against ((front ++ [part]).take place) other earlier) ↔
      (∃ other ∈ front[place]?, against (front.take place) other earlier) ∨
        place = front.length ∧ against front part earlier := by
  simp only [mem_getElem?_concat_iff, or_and_right, exists_or]
  refine or_congr (exists_congr fun other => and_congr_right fun found => ?_) ?_
  · have before := (List.getElem?_eq_some_iff.mp found).1
    rw [List.take_append_of_le_length (Nat.le_of_lt before)]
  · constructor
    · rintro ⟨_, ⟨rfl, rfl⟩, held⟩
      rw [List.take_left] at held
      exact ⟨rfl, held⟩
    · rintro ⟨rfl, held⟩
      refine ⟨part, ⟨rfl, rfl⟩, ?_⟩
      rwa [List.take_left]

theorem Reports.place_lt (run : Reports against wording front reports diagnostics)
    {report : Nat × Nat} (member : report ∈ reports) : report.1 < front.length := by
  obtain ⟨part, found, _⟩ := (run.mem_iff report.1 report.2).mp member
  exact (List.getElem?_eq_some_iff.mp found).1

theorem Reports.mem_places_iff (run : Reports against wording front reports diagnostics)
    {place : Nat} :
    place ∈ reports.map (·.1) ↔
      ∃ earlier, ∃ part ∈ front[place]?, against (front.take place) part earlier := by
  simp only [← run.mem_iff, List.mem_map, Prod.exists, exists_and_right, exists_eq_right]

theorem getElem?_concat {place : Nat} {earlier : Section} (found : earlier ∈ front[place]?) :
    earlier ∈ (front ++ [part])[place]? :=
  mem_getElem?_concat_iff.mpr (Or.inl found)

theorem Reports.said_concat (run : Reports against wording front reports diagnostics) :
    List.Forall₂ (fun report diagnostic => ∃ own ∈ (front ++ [part])[report.1]?,
      ∃ earlier ∈ (front ++ [part])[report.2]?, wording own earlier diagnostic) reports diagnostics := by
  refine run.said.imp fun report diagnostic => ?_
  rintro ⟨own, ownFound, earlier, found, said⟩
  exact ⟨own, getElem?_concat ownFound, earlier, getElem?_concat found, said⟩

/-- A section against which nothing is held is not reported. -/
theorem Reports.concat_of_not_against (run : Reports against wording front reports diagnostics)
    (nothing : ∀ earlier, ¬against front part earlier) :
    Reports against wording (front ++ [part]) reports diagnostics := by
  refine ⟨run.ordered, fun place earlier => ?_, run.said_concat⟩
  rw [run.mem_iff, exists_against_concat_iff]
  simp [nothing]

/-- A section is reported with the earlier one that is held against it. -/
theorem Reports.concat (run : Reports against wording front reports diagnostics) {top : Nat}
    {first : Section} {diagnostic : Diagnostic}
    (own : ∀ earlier, against front part earlier ↔ earlier = top) (found : first ∈ front[top]?)
    (said : wording part first diagnostic) :
    Reports against wording (front ++ [part]) (reports ++ [(front.length, top)])
      (diagnostics ++ [diagnostic]) := by
  refine ⟨?_, fun place earlier => ?_, ?_⟩
  · refine List.pairwise_append.mpr ⟨run.ordered, List.pairwise_singleton _ _, ?_⟩
    rintro report member _ last
    rw [List.mem_singleton.mp last]
    exact run.place_lt member
  · rw [List.mem_append, run.mem_iff, exists_against_concat_iff, own, List.mem_singleton,
      Prod.mk.injEq]
  · refine List.rel_append run.said_concat (List.Forall₂.cons ?_ List.Forall₂.nil)
    exact ⟨part, by simp, first, getElem?_concat found, said⟩

end Run

/-! ### Order -/

/-- The section at a place has a rank. -/
def HasRank (sections : List Section) (place rank : Nat) : Prop :=
  ∃ part ∈ sections[place]?, part.kind.rank = some rank

/-- The first of the sections that have the highest rank. -/
structure IsFirstHighest (sections : List Section) (top rank : Nat) : Prop where
  own : HasRank sections top rank
  highest : ∀ place other, HasRank sections place other → other ≤ rank
  first : ∀ place < top, ∀ other, HasRank sections place other → other < rank

/-- A section that should come before the first of those that have the highest rank before it. -/
def ComesBehind (front : List Section) (part : Section) (top : Nat) : Prop :=
  ∃ rank ∈ part.kind.rank, ∃ highest, IsFirstHighest front top highest ∧ rank < highest

variable {sections front : List Section} {part : Section}

theorem hasRank_concat_iff {place rank : Nat} :
    HasRank (front ++ [part]) place rank ↔
      HasRank front place rank ∨ place = front.length ∧ part.kind.rank = some rank := by
  unfold HasRank
  simp only [mem_getElem?_concat_iff, or_and_right, exists_or, and_assoc, exists_and_left,
    exists_eq_left']

theorem HasRank.lt {place rank : Nat} (hasRank : HasRank sections place rank) :
    place < sections.length := by
  obtain ⟨part, found, _⟩ := hasRank
  exact (List.getElem?_eq_some_iff.mp found).1

/-- There is one first highest section at most. -/
theorem IsFirstHighest.unique {place rank other otherRank : Nat}
    (isFirst : IsFirstHighest sections place rank)
    (otherFirst : IsFirstHighest sections other otherRank) : place = other := by
  have notHigher := isFirst.highest other otherRank otherFirst.own
  have notLower := otherFirst.highest place rank isFirst.own
  rcases Nat.lt_trichotomy place other with before | same | behind
  · exact absurd (otherFirst.first place before rank isFirst.own) (Nat.not_lt.mpr notHigher)
  · exact same
  · exact absurd (isFirst.first other behind otherRank otherFirst.own) (Nat.not_lt.mpr notLower)

/-- What the check of the order keeps of some sections: the first of those that have the highest rank,
or nothing where none has a rank. -/
def Keeps (front : List Section) : Option Section → Prop
  | none => ∀ place rank, ¬HasRank front place rank
  | some top => ∃ place rank, top ∈ front[place]? ∧ top.kind.rank = some rank ∧
      IsFirstHighest front place rank

/-- A section of a higher rank than all before it becomes the first highest one. -/
theorem isFirstHighest_concat_self {rank : Nat} (own : part.kind.rank = some rank)
    (lower : ∀ place other, HasRank front place other → other < rank) :
    IsFirstHighest (front ++ [part]) front.length rank := by
  refine ⟨hasRank_concat_iff.mpr (Or.inr ⟨rfl, own⟩), fun place other hasRank => ?_,
    fun place before other hasRank => ?_⟩
  · rcases hasRank_concat_iff.mp hasRank with earlier | ⟨_, last⟩
    · exact Nat.le_of_lt (lower place other earlier)
    · exact Nat.le_of_eq (Option.some.inj (last.symm.trans own))
  · rcases hasRank_concat_iff.mp hasRank with earlier | ⟨last, _⟩
    · exact lower place other earlier
    · exact absurd last (Nat.ne_of_lt before)

/-- A section that is not higher leaves the first highest one what it is. -/
theorem IsFirstHighest.concat {place rank : Nat} (isFirst : IsFirstHighest front place rank)
    (notHigher : ∀ own ∈ part.kind.rank, own ≤ rank) :
    IsFirstHighest (front ++ [part]) place rank := by
  refine ⟨hasRank_concat_iff.mpr (Or.inl isFirst.own), fun other otherRank hasRank => ?_,
    fun other before otherRank hasRank => ?_⟩
  · rcases hasRank_concat_iff.mp hasRank with earlier | ⟨_, last⟩
    · exact isFirst.highest other otherRank earlier
    · exact notHigher otherRank last
  · rcases hasRank_concat_iff.mp hasRank with earlier | ⟨last, _⟩
    · exact isFirst.first other before otherRank earlier
    · exact absurd (Nat.lt_trans before isFirst.own.lt) (last ▸ Nat.lt_irrefl _)

/-- One more section is read. -/
theorem Keeps.higher {highest : Option Section} (keeps : Keeps front highest) (part : Section) :
    Keeps (front ++ [part]) (higher highest part) := by
  cases highest with
  | none =>
    unfold Section.higher
    dsimp only
    cases own : part.kind.rank with
    | none =>
      intro place rank hasRank
      rcases hasRank_concat_iff.mp hasRank with earlier | ⟨_, last⟩
      · exact keeps place rank earlier
      · cases own.symm.trans last
    | some rank =>
      exact ⟨front.length, rank, by simp, own, isFirstHighest_concat_self own
        fun place other hasRank => absurd hasRank (keeps place other)⟩
  | some top =>
    obtain ⟨place, rank, found, topRank, isFirst⟩ := keeps
    unfold Section.higher
    dsimp only
    split
    · rename_i before
      obtain ⟨lower, isRank, own, ownRank, less⟩ := SectionKind.precedes_iff.mp before
      obtain rfl : lower = rank := Option.some.inj (isRank.symm.trans topRank)
      exact ⟨front.length, own, by simp, ownRank, isFirstHighest_concat_self ownRank
        fun other otherRank hasRank =>
          Nat.lt_of_le_of_lt (isFirst.highest other otherRank hasRank) less⟩
    · rename_i notBefore
      refine ⟨place, rank, getElem?_concat found, topRank, isFirst.concat fun own ownRank => ?_⟩
      exact SectionKind.precedes_eq_false_iff.mp (Bool.eq_false_iff.mpr notBefore) rank topRank own
        ownRank

/-- All sections are read. -/
theorem keeps_foldl (sections : List Section) : Keeps sections (sections.foldl higher none) := by
  induction sections using List.reverseRecOn with
  | nil =>
    rintro place rank ⟨_, ⟨⟩, _⟩
  | append_singleton front part inductionHypothesis =>
    rw [List.foldl_append]
    exact inductionHypothesis.higher part

/-- What is said of a section behind the highest one so far. -/
def lateBehind (highest : Option Section) (part : Section) : List (Section × Section) :=
  match highest with
  | none => []
  | some top => if part.kind.precedes top.kind then [(part, top)] else []

/-- A section that comes late is lower than the highest one, so the check may pass over it as well
as compare it. -/
theorem outOfOrder_cons (highest : Option Section) (part : Section) (rest : List Section) :
    outOfOrder highest (part :: rest) =
      lateBehind highest part ++ outOfOrder (higher highest part) rest := by
  cases highest with
  | none => rfl
  | some top =>
    rw [outOfOrder, lateBehind]
    split
    · rename_i late
      obtain ⟨rank, own, higher, topRank, less⟩ := SectionKind.precedes_iff.mp late
      have notBefore : top.kind.precedes part.kind = false := by
        refine SectionKind.precedes_eq_false_iff.mpr fun first isFirst second isSecond => ?_
        obtain rfl := Option.some.inj (isFirst.symm.trans topRank)
        obtain rfl := Option.some.inj (isSecond.symm.trans own)
        exact Nat.le_of_lt less
      rw [Section.higher, notBefore]
      rfl
    · rfl

theorem outOfOrder_append_singleton (highest : Option Section) (front : List Section)
    (part : Section) :
    outOfOrder highest (front ++ [part]) =
      outOfOrder highest front ++ lateBehind (front.foldl higher highest) part := by
  induction front generalizing highest with
  | nil =>
    rw [List.nil_append, outOfOrder_cons]
    exact List.append_nil _
  | cons first rest inductionHypothesis =>
    rw [List.cons_append, outOfOrder_cons, outOfOrder_cons, inductionHypothesis, List.append_assoc]
    rfl

/-- The sections that are reported are those that come behind a higher one. -/
theorem exists_reports_checkOrder (strict : Bool) (sections : List Section) :
    ∃ reports, Reports ComesBehind
      (fun part top diagnostic => diagnostic = orderDiagnostic strict part top) sections reports
      (checkOrder strict sections) := by
  induction sections using List.reverseRecOn with
  | nil => exact ⟨[], .nil⟩
  | append_singleton front part inductionHypothesis =>
    obtain ⟨reports, run⟩ := inductionHypothesis
    have keeps := keeps_foldl front
    unfold checkOrder at run ⊢
    rw [outOfOrder_append_singleton, List.map_append]
    cases highest : front.foldl higher none with
    | none =>
      rw [highest] at keeps
      refine ⟨reports, (List.append_nil _).symm ▸ run.concat_of_not_against ?_⟩
      rintro earlier ⟨_, _, _, isFirst, _⟩
      exact keeps _ _ isFirst.own
    | some top =>
      rw [highest] at keeps
      obtain ⟨place, rank, found, topRank, isFirst⟩ := keeps
      rw [lateBehind]
      split
      · rename_i late
        obtain ⟨own, ownRank, higher, isHigher, less⟩ := SectionKind.precedes_iff.mp late
        obtain rfl := Option.some.inj (isHigher.symm.trans topRank)
        refine ⟨_, run.concat (fun earlier => ?_) found rfl⟩
        constructor
        · rintro ⟨_, _, _, other, _⟩
          exact other.unique isFirst
        · rintro rfl
          exact ⟨own, ownRank, _, isFirst, less⟩
      · rename_i inOrder
        refine ⟨reports, (List.append_nil _).symm ▸ run.concat_of_not_against ?_⟩
        rintro earlier ⟨own, ownRank, highest, other, less⟩
        have notLess := SectionKind.precedes_eq_false_iff.mp (Bool.eq_false_iff.mpr inOrder) own
          ownRank rank topRank
        exact absurd (Nat.lt_of_lt_of_le less (isFirst.highest _ _ other.own))
          (Nat.not_lt.mpr notLess)

/-- A section has a rank, and a section before it has a higher one. -/
def ComesLate (sections : List Section) (place : Nat) : Prop :=
  ∃ rank, HasRank sections place rank ∧
    ∃ earlier < place, ∃ higher, HasRank sections earlier higher ∧ rank < higher

theorem hasRank_take_iff {count place rank : Nat} :
    HasRank (sections.take count) place rank ↔ place < count ∧ HasRank sections place rank := by
  unfold HasRank
  rw [List.getElem?_take]
  split
  · rename_i before
    simp [before]
  · rename_i behind
    simp [behind]

/-- Where some section has a rank, there is a first one that has the highest. -/
theorem exists_isFirstHighest {place rank : Nat} (hasRank : HasRank front place rank) :
    ∃ top highest, IsFirstHighest front top highest := by
  have keeps := keeps_foldl front
  cases highest : front.foldl higher none with
  | none =>
    rw [highest] at keeps
    exact absurd hasRank (keeps place rank)
  | some top =>
    rw [highest] at keeps
    obtain ⟨first, own, _, _, isFirst⟩ := keeps
    exact ⟨first, own, isFirst⟩

theorem comesLate_iff {place : Nat} :
    ComesLate sections place ↔
      ∃ top, ∃ part ∈ sections[place]?, ComesBehind (sections.take place) part top := by
  constructor
  · rintro ⟨rank, ⟨part, found, own⟩, earlier, before, higher, hasRank, less⟩
    have inFront := hasRank_take_iff.mpr ⟨before, hasRank⟩
    obtain ⟨top, highest, isFirst⟩ := exists_isFirstHighest inFront
    exact ⟨top, part, found, rank, own, highest, isFirst,
      Nat.lt_of_lt_of_le less (isFirst.highest earlier higher inFront)⟩
  · rintro ⟨top, part, found, rank, own, highest, isFirst, less⟩
    obtain ⟨before, hasRank⟩ := hasRank_take_iff.mp isFirst.own
    exact ⟨rank, ⟨part, found, own⟩, top, before, highest, hasRank, less⟩

/-- The sections that stand at none of some places. -/
def without (sections : List Section) (places : List Nat) : List Section :=
  (sections.zipIdx.filter fun entry => !places.contains entry.2).map (·.1)

theorem pairwise_zipIdx (sections : List Section) :
    sections.zipIdx.Pairwise fun entry later => entry.2 < later.2 := by
  have numbers : (sections.zipIdx.map (·.2)).Pairwise (· < ·) := by
    rw [List.zipIdx_map_snd]
    exact List.pairwise_lt_range'
  exact List.pairwise_map.mp numbers

/-- Without the sections that come late nothing is out of order. -/
theorem checkOrder_without (strict : Bool) {places : List Nat}
    (late : ∀ place, ComesLate sections place → place ∈ places) :
    checkOrder strict (without sections places) = [] := by
  have nothing : outOfOrder none (without sections places) = [] := by
    refine outOfOrder_none_eq_nil_iff.mpr (List.pairwise_map.mpr ?_)
    refine ((pairwise_zipIdx sections).filter _).imp_of_mem ?_
    rintro ⟨part, place⟩ ⟨later, laterPlace⟩ member laterMember before
    have found := List.mem_zipIdx_iff_getElem?.mp (List.mem_of_mem_filter member)
    obtain ⟨inSections, kept⟩ := List.mem_filter.mp laterMember
    have laterFound := List.mem_zipIdx_iff_getElem?.mp inSections
    refine SectionKind.precedes_eq_false_iff.mpr fun rank own higher isHigher => ?_
    by_contra less
    have reported := late laterPlace ⟨rank, ⟨later, laterFound, own⟩, place, before, higher,
      ⟨part, found, isHigher⟩, Nat.not_le.mp less⟩
    simp [reported] at kept
  rw [checkOrder, nothing]
  rfl

end Section

end LlmTxt

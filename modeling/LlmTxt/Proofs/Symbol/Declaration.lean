/-
This file says what the headings of a section declare, one heading after the other. Reading a
heading as a declaration may fail, and then the whole reading fails; so each step is put as what it
does with the result of that reading, and the steps can be followed without opening the reading
itself.

A declaration always comes of a heading of the section, and keeps it.
-/

import LlmTxt.Proofs.Steps
import LlmTxt.Symbol.Declaration

namespace LlmTxt

namespace Declaration

/-! ### One heading -/

/-- The declaration of a heading of the fourth level, given what it declares. -/
def ofHeader (heading : Heading) : Option ObjectHeader → Declaration
  | some header => ⟨heading, some header, header.name⟩
  | none => ⟨heading, none, String.ofList (ObjectHeader.fallbackName heading.text.toList)⟩

/-- The declaration of a heading of the fifth level, given what it declares. -/
def ofMemberHeader (owner : String) (heading : Heading) : Option ObjectHeader → Option Declaration
  | some header =>
    if header.kind = .method then
      some ⟨heading, some header,
        if header.name.startsWith (owner ++ ".") then header.name
        else owner ++ "." ++ header.name⟩
    else none
  | none => none

theorem ofObject_eq (heading : Heading) :
    ofObject heading = (ObjectHeader.ofHeading? heading.text.toList).map (ofHeader heading) := by
  unfold ofObject
  cases ObjectHeader.ofHeading? heading.text.toList with
  | error failure => rfl
  | ok header? => cases header? <;> rfl

theorem ofMember_eq (owner : String) (heading : Heading) :
    ofMember owner heading =
      (ObjectHeader.ofHeading? heading.text.toList).map (ofMemberHeader owner heading) := by
  unfold ofMember
  cases ObjectHeader.ofHeading? heading.text.toList with
  | error failure => rfl
  | ok header? =>
    cases header? with
    | none => rfl
    | some header =>
      simp only [bind, Except.bind, Except.map, ofMemberHeader]
      split <;> rfl

@[simp] theorem heading_ofHeader (heading : Heading) (header? : Option ObjectHeader) :
    (ofHeader heading header?).heading = heading := by
  cases header? <;> rfl

theorem heading_of_ofMemberHeader {owner : String} {heading : Heading}
    {header? : Option ObjectHeader} {declaration : Declaration}
    (made : ofMemberHeader owner heading header? = some declaration) :
    declaration.heading = heading := by
  unfold ofMemberHeader at made
  split at made
  · split at made
    · cases made
      rfl
    · cases made
  · cases made

/-! ### One heading after the other -/

/-- The owner under which a heading of a level below the fourth stands. -/
def isMemberOf (owner : Option String) (heading : Heading) : Option String :=
  if heading.level = memberLevel then owner else none

theorem ofHeadings_of_lt {heading : Heading} (above : heading.level < objectLevel)
    (owner : Option String) (rest : List Heading) :
    ofHeadings owner (heading :: rest) = ofHeadings none rest := by
  rw [ofHeadings.eq_def]
  exact if_pos above

theorem ofHeadings_of_eq {heading : Heading} (same : heading.level = objectLevel)
    (owner : Option String) (rest : List Heading) :
    ofHeadings owner (heading :: rest) =
      (ObjectHeader.ofHeading? heading.text.toList).bind fun header? =>
        (ofHeadings (ofHeader heading header?).owner? rest).map
          fun others => ofHeader heading header? :: others := by
  rw [ofHeadings.eq_def]
  dsimp only
  rw [if_neg (Nat.not_lt.mpr (Nat.le_of_eq same.symm)), if_pos same, ofObject_eq]
  cases ObjectHeader.ofHeading? heading.text.toList with
  | error failure => rfl
  | ok header? =>
    simp only [Except.map, bind, Except.bind]
    split <;> rfl

theorem ofHeadings_of_gt {heading : Heading} (below : objectLevel < heading.level)
    (owner : Option String) (rest : List Heading) :
    ofHeadings owner (heading :: rest) =
      match isMemberOf owner heading with
      | some name =>
        (ObjectHeader.ofHeading? heading.text.toList).bind fun header? =>
          (ofHeadings owner rest).map
            fun others => (ofMemberHeader name heading header?).toList ++ others
      | none => ofHeadings owner rest := by
  rw [ofHeadings.eq_def]
  dsimp only
  rw [if_neg (Nat.not_lt.mpr (Nat.le_of_lt below)), if_neg (Nat.ne_of_gt below)]
  unfold isMemberOf
  cases owner with
  | none => rw [ite_self]
  | some name =>
    by_cases member : heading.level = memberLevel
    · simp only [if_pos member, ofMember_eq]
      cases ObjectHeader.ofHeading? heading.text.toList with
      | error failure => rfl
      | ok header? =>
        simp only [Except.map, bind, Except.bind]
        cases ofMemberHeader name heading header? <;> cases ofHeadings (some name) rest <;> rfl
    · simp only [if_neg member]

/-- Every declaration is that of a heading. -/
theorem heading_mem_of_ofHeadings {owner : Option String} {headings : List Heading}
    {declarations : List Declaration} (read : ofHeadings owner headings = .ok declarations)
    {declaration : Declaration} (member : declaration ∈ declarations) :
    declaration.heading ∈ headings := by
  induction headings generalizing owner declarations with
  | nil =>
    cases read
    cases member
  | cons heading rest inductionHypothesis =>
    rcases Nat.lt_trichotomy heading.level objectLevel with above | same | below
    · rw [ofHeadings_of_lt above] at read
      exact List.mem_cons_of_mem _ (inductionHypothesis read member)
    · rw [ofHeadings_of_eq same] at read
      cases header : ObjectHeader.ofHeading? heading.text.toList with
      | error failure => simp [header, Except.bind] at read
      | ok header? =>
        cases others : ofHeadings (ofHeader heading header?).owner? rest with
        | error failure => simp [header, others, Except.bind, Except.map] at read
        | ok more =>
          simp only [header, others, Except.bind, Except.map, Except.ok.injEq] at read
          rw [← read] at member
          rcases List.mem_cons.mp member with rfl | later
          · exact List.mem_cons.mpr (Or.inl (heading_ofHeader heading header?))
          · exact List.mem_cons_of_mem _ (inductionHypothesis others later)
    · rw [ofHeadings_of_gt below] at read
      split at read
      · rename_i name _
        cases header : ObjectHeader.ofHeading? heading.text.toList with
        | error failure => simp [header, Except.bind] at read
        | ok header? =>
          cases others : ofHeadings owner rest with
          | error failure => simp [header, others, Except.bind, Except.map] at read
          | ok more =>
            simp only [header, others, Except.bind, Except.map, Except.ok.injEq] at read
            rw [← read] at member
            rcases List.mem_append.mp member with own | later
            · rw [Option.mem_toList] at own
              exact List.mem_cons.mpr (Or.inl (heading_of_ofMemberHeader own))
            · exact List.mem_cons_of_mem _ (inductionHypothesis others later)
      · exact List.mem_cons_of_mem _ (inductionHypothesis read member)

end Declaration

/-! ### The contents of the modules -/

namespace Document

/-- What a module section declares comes of its own headings. -/
theorem exists_of_mem_moduleContents {document : Document} {contents : List ModuleContent}
    (run : document.moduleContents = .ok contents) {content : ModuleContent}
    (member : content ∈ contents) :
    ∃ part ∈ document.sections, content.span = part.headingSpan ∧
      ∀ declaration ∈ content.declarations, declaration.heading ∈ part.headings := by
  unfold moduleContents at run
  obtain ⟨part, selected, made⟩ := exists_of_mem_mapM run member
  have inSections : part ∈ document.sections := by
    have inModules : part ∈ document.moduleSections := (List.mem_filter.mp selected).1
    exact (List.mem_filter.mp inModules).1
  cases read : Declaration.ofHeadings none part.headings with
  | error failure => simp [read, bind, Except.bind] at made
  | ok declarations =>
    simp only [read, bind, Except.bind, pure, Except.pure, Except.ok.injEq] at made
    rw [← made]
    exact ⟨part, inSections, rfl, fun _ => Declaration.heading_mem_of_ofHeadings read⟩

end Document

end LlmTxt

/-
This file says where a line of the body stands, from the lines before it alone: inside fenced
code or outside, and under the module sections or not. Reading decides what a heading is by the
state it is in, so this is what a statement about a heading of a text has to ask for. A section
that a heading has begun is there when the text has been read, whatever comes behind it.
-/

import LlmTxt.Proofs.Document.Passages
import LlmTxt.Proofs.Document.Places
import LlmTxt.Proofs.Heading

namespace LlmTxt

/-! ### The body of a text -/

theorem Frontmatter.span_of_ofLines {body : List Line} {closing : Nat} {frontmatter : Frontmatter}
    (loaded : Frontmatter.ofLines body closing = .ok frontmatter) :
    frontmatter.span = ⟨1, closing, some 0⟩ := by
  unfold Frontmatter.ofLines at loaded
  cases content : contentOf (body.map (·.characters))
      (Yaml.Value.ofText? (['\n'].intercalate (body.map (·.characters)))) with
  | error failure =>
    dsimp only at loaded
    rw [content] at loaded
    cases loaded
  | ok content' =>
    dsimp only at loaded
    rw [content] at loaded
    cases loaded
    rfl

namespace Document

/-- The lines of a text behind the frontmatter of its document, if there is one. -/
def bodyLines (source : Source) (document : Document) : List Line :=
  source.lines.drop ((document.frontmatter.map (·.span.last)).getD 0)

/-- The lines that are set aside are those of the span of the frontmatter. -/
theorem IsSetAside.length_eq {source : Source} {front behind : List Line}
    {frontmatter : Option Frontmatter} {given : Array Section}
    (isSetAside : IsSetAside front frontmatter given) (cut : source.lines = front ++ behind) :
    front.length = (frontmatter.map (·.span.last)).getD 0 := by
  cases isSetAside with
  | bare => rfl
  | @closed opener closer body frontmatter _ _ loaded =>
    have closing : source.lines = (opener :: body) ++ closer :: behind := by simp [cut]
    rw [Option.map_some, Option.getD_some, Frontmatter.span_of_ofLines loaded,
      Source.number_eq_of_split closing]
    simp

/-- A document comes from reading the body of its text behind the section of its frontmatter. -/
theorem exists_readBody {text : String} {document : Document}
    (read : ofText text = .ok (document, none)) :
    ∃ (given : Array Section) (lineCount : Nat),
      readBody document.frontmatter given (document.bodyLines (Source.ofString text)) lineCount =
        .ok document := by
  obtain ⟨front, behind, frontmatter, given, cut, isSetAside, _, body⟩ :=
    ofLines_cases (ofText_eq_document read)
  obtain ⟨_, _, _, _, _, own, _⟩ := readBody_eq_ok body
  refine ⟨given, (Source.ofString text).lines.length, ?_⟩
  unfold bodyLines
  rw [own, ← isSetAside.length_eq cut, cut, List.drop_left, ← cut]
  exact body

end Document

/-! ### Fences -/

/-- A heading is no fence. -/
theorem Heading.ofLine?_fence {line : List Char} {found : Nat × List Char}
    (heading : Heading.ofLine? line = some found) : Fence.ofLine? line = none := by
  cases indented : dropIndent line with
  | nil =>
    unfold Fence.ofLine?
    rw [indented]
  | cons first rest =>
    by_cases sign : first = '#'
    · exact Fence.ofLine?_eq_none indented (by rw [sign]; rfl)
    · rw [Heading.ofLine?_eq_none indented sign] at heading
      cases heading

/-- The fence that is open behind some lines. -/
def openFence (lines : List Line) : Option Fence :=
  (lines.map Line.characters).foldl fenceAfter none

namespace Reading

@[simp] theorem openSection_title (reading : Reading) (line : Line) (level : Nat)
    (title : List Char) (kind : SectionKind) (moduleName : Option String) :
    (reading.openSection line level title kind moduleName).title = reading.title := by
  unfold openSection closeSection
  split <;> rfl

/-- A code block is open behind a line where a fence is. -/
theorem fence_readLine (reading : Reading) (line : Line) :
    (reading.readLine line).code.map OpenCode.fence =
      fenceAfter (reading.code.map OpenCode.fence) line.characters := by
  rw [code_readLine, Body.fence_codeStep]

theorem fence_readLines (given : Array Section) (lines : List Line) :
    ((start given).readLines lines).code.map OpenCode.fence = openFence lines := by
  rw [code_readLines]
  exact Body.fence_openCode lines

theorem readLines_append (reading : Reading) (front back : List Line) :
    reading.readLines (front ++ back) = (reading.readLines front).readLines back :=
  List.foldl_append

theorem readLines_cons (reading : Reading) (line : Line) (rest : List Line) :
    reading.readLines (line :: rest) = (reading.readLine line).readLines rest := rfl

theorem code_eq_none_of_openFence (given : Array Section) {lines : List Line}
    (outside : openFence lines = none) : ((start given).readLines lines).code = none := by
  rw [← fence_readLines given lines] at outside
  exact Option.map_eq_none_iff.mp outside

/-! ### Sections that have begun -/

/-- A section of a kind has begun on a line, perhaps for a module. It may be over by now. -/
def HasBegun (kind : SectionKind) (moduleName : Option String) (number : Nat)
    (reading : Reading) : Prop :=
  (∃ part ∈ reading.sections.toList,
    part.kind = kind ∧ part.moduleName = moduleName ∧ part.span.first = number) ∨
  ∃ part, reading.current = some part ∧
    part.kind = kind ∧ part.moduleName = moduleName ∧ part.line = number

variable {reading : Reading} {kind : SectionKind} {moduleName : Option String} {number : Nat}

theorem hasBegun_openSection (reading : Reading) (line : Line) (level : Nat) (title : List Char)
    (kind : SectionKind) (moduleName : Option String) :
    (reading.openSection line level title kind moduleName).HasBegun kind moduleName
      line.number :=
  Or.inr ⟨_, rfl, rfl, rfl, rfl⟩

theorem HasBegun.exists_section (begun : reading.HasBegun kind moduleName number) :
    ∃ part ∈ reading.closeSection.sections.toList,
      part.kind = kind ∧ part.moduleName = moduleName ∧ part.span.first = number := by
  rcases begun with ⟨part, member, own⟩ | ⟨part, current, own⟩
  · refine ⟨part, ?_, own⟩
    unfold closeSection
    split
    · exact member
    · simp [member]
  · refine ⟨part.close, ?_, own⟩
    unfold closeSection
    rw [current]
    simp

/-- Reading on keeps what has begun. -/
theorem HasBegun.readLine (begun : reading.HasBegun kind moduleName number) (line : Line) :
    (reading.readLine line).HasBegun kind moduleName number := by
  rcases reading.readLine_cases line with ⟨_, _, _, _, _, _, _, _, read⟩ | extended
  · rw [read]
    exact Or.inl begun.exists_section
  · rcases begun with there | ⟨part, current, own⟩
    · exact Or.inl (extended.sections_eq ▸ there)
    · have next := extended.current_eq
      rw [current, Option.map_some] at next
      exact Or.inr ⟨_, next, own⟩

theorem HasBegun.readLines (begun : reading.HasBegun kind moduleName number) (lines : List Line) :
    (reading.readLines lines).HasBegun kind moduleName number := by
  induction lines generalizing reading with
  | nil => exact begun
  | cons line rest inductionHypothesis => exact inductionHypothesis (begun.readLine line)

/-! ### Under the module sections -/

theorem inModules_openSection (reading : Reading) (line : Line) (level : Nat) (title : List Char)
    {kind : SectionKind} (modules : kind = .moduleSections ∨ kind = .moduleSection)
    (moduleName : Option String) :
    (reading.openSection line level title kind moduleName).inModules = true := by
  unfold inModules openSection
  rcases modules with rfl | rfl <;> rfl

/-- Only a heading of the first or the second level leads away from the module sections. -/
theorem inModules_readLine (within : reading.inModules = true) {line : Line}
    (deep : reading.code = none → ∀ level title,
      Heading.ofLine? line.characters = some (level, title) → 3 ≤ level) :
    (reading.readLine line).inModules = true := by
  rcases reading.readLine_cases line with
    ⟨level, title, kind, moduleName, noCode, _, heading, opens, read⟩ | extended
  · have bound := deep noCode level title heading
    rw [read]
    unfold classify at opens
    dsimp only at opens
    rw [if_neg (by omega)] at opens
    split at opens
    · obtain ⟨_, _, same⟩ := Option.map_eq_some_iff.mp opens
      exact inModules_openSection _ _ _ _ (Or.inr (Prod.mk.inj same).1.symm) _
    · rw [if_neg (by simp; omega)] at opens
      cases opens
  · unfold inModules at within ⊢
    rw [extended.current_eq]
    cases current : reading.current with
    | none =>
      rw [current] at within
      cases within
    | some part =>
      rw [current] at within
      exact within

end Reading

/-- Some lines end under a heading of the second level that opens the module sections: no other
heading of the first or the second level stands behind it outside code. -/
def IsUnderModules (lines : List Line) : Prop :=
  ∃ before container inner title, lines = before ++ container :: inner ∧
    openFence before = none ∧ Heading.ofLine? container.characters = some (2, title) ∧
    SectionKind.ofTitle title = .moduleSections ∧
    ∀ early line late, inner = early ++ line :: late →
      openFence (before ++ container :: early) = none →
      ∀ level title, Heading.ofLine? line.characters = some (level, title) → 3 ≤ level

namespace Reading

/-- A heading of the second level that opens the module sections, outside code. -/
theorem inModules_readLine_container {reading : Reading} (noCode : reading.code = none)
    {line : Line} {title : List Char}
    (heading : Heading.ofLine? line.characters = some (2, title))
    (container : SectionKind.ofTitle title = .moduleSections) :
    (reading.readLine line).inModules = true := by
  have noFence := Heading.ofLine?_fence heading
  unfold readLine readProse
  rw [noCode, noFence, heading]
  dsimp only
  unfold classify
  dsimp only
  rw [if_pos rfl]
  cases (moduleOf? title).map fun name => String.ofList (cleanModuleName name) with
  | some name => exact inModules_openSection _ _ _ _ (Or.inr rfl) _
  | none => exact inModules_openSection _ _ _ _ (Or.inl container) _

theorem inModules_readLines {lines : List Line} (under : IsUnderModules lines)
    (given : Array Section) : ((start given).readLines lines).inModules = true := by
  obtain ⟨before, container, inner, title, rfl, outside, heading, opens, deep⟩ := under
  induction inner using List.reverseRecOn with
  | nil =>
    rw [readLines_append]
    exact inModules_readLine_container (code_eq_none_of_openFence given outside) heading opens
  | append_singleton inner line inductionHypothesis =>
    have split : before ++ container :: (inner ++ [line]) =
        (before ++ container :: inner) ++ [line] := by simp
    rw [split, readLines_append]
    refine inModules_readLine (inductionHypothesis ?_) ?_
    · intro early other late cut
      exact deep early other (late ++ [line]) (by rw [cut]; simp)
    · intro noCode
      refine deep inner line [] rfl ?_
      rw [← fence_readLines given, noCode]
      rfl

end Reading

end LlmTxt

/-
This file reads two texts as one. The first has been read and ends with a line break, and the
second begins with a heading of the second level. Such a heading begins a section wherever it
stands, and so nothing of the state in which the first text has left the reading goes on: no code
block is open there, the section that was being read is over, the section that follows is in no
container, and a title can no longer be given. From the heading on, the run goes on as a run of its
own would, in another place and behind the sections that are there.
-/

import LlmTxt.Proofs.Document.Lockstep
import LlmTxt.Proofs.Document.Relocation

namespace LlmTxt

open Text

/-! ### Headings of the second level -/

/-- A heading does not close a frontmatter. -/
theorem Heading.isDelimiter_eq_false {line : List Char} {found : Nat × List Char}
    (heading : ofLine? line = some found) : Frontmatter.isDelimiter line = false := by
  cases line with
  | nil => rfl
  | cons first rest =>
    by_cases dash : first = '-'
    · subst dash
      rw [ofLine?_eq_none (dropIndent_cons (by decide) rest) (by decide)] at heading
      cases heading
    · unfold Frontmatter.isDelimiter after?
      rw [if_neg (Ne.symm dash)]

namespace Reading

/-- A heading of the second level begins the same section everywhere. -/
theorem classify_two (reading twin : Reading) (title : List Char) :
    ∃ opened, reading.classify 2 title = some opened ∧ twin.classify 2 title = some opened := by
  unfold classify
  dsimp only
  rw [if_pos rfl, if_pos rfl]
  cases (moduleOf? title).map fun name => String.ofList (cleanModuleName name) with
  | some name => exact ⟨_, rfl, rfl⟩
  | none => exact ⟨_, rfl, rfl⟩

/-- Once a section is being read, nothing becomes the title any more. -/
theorem title_readLines {reading : Reading} (within : reading.current.isSome)
    (lines : List Line) : (reading.readLines lines).title = reading.title := by
  induction lines generalizing reading with
  | nil => rfl
  | cons line rest inductionHypothesis =>
    obtain ⟨part, current⟩ := Option.isSome_iff_exists.mp within
    rw [readLines_cons, inductionHypothesis (current_isSome_readLine within line), title_readLine,
      current, Option.isNone_some, Bool.and_false, if_neg Bool.false_ne_true, Option.or_none]

@[simp] theorem closeSection_title (reading : Reading) :
    reading.closeSection.title = reading.title := by
  unfold closeSection
  split <;> rfl

theorem start_readLine_two {heading : Line} {title : List Char}
    (two : Heading.ofLine? heading.characters = some (2, title)) :
    ((start #[]).readLine heading).current.isSome ∧
      ((start #[]).readLine heading).title = none := by
  obtain ⟨opened, opens, _⟩ := classify_two (start #[]) (start #[]) title
  rw [readLine_of_opens rfl (Heading.ofLine?_fence two) two opens]
  exact ⟨rfl, rfl⟩

/-- A document that begins with a heading of the second level has no title. -/
theorem title_of_two {heading : Line} {title : List Char}
    (two : Heading.ofLine? heading.characters = some (2, title)) (rest : List Line) :
    ((start #[]).readLines (heading :: rest)).title = none := by
  obtain ⟨within, untitled⟩ := start_readLine_two two
  rw [readLines_cons, title_readLines within, untitled]

/-- From a heading of the second level on, reading goes on as it would begin there. -/
theorem readLines_of_two {reading : Reading} (noCode : reading.code = none) {heading : Line}
    {title : List Char} (two : Heading.ofLine? heading.characters = some (2, title))
    (rest : List Line) (place : Placement) :
    reading.readLines ((heading :: rest).map (Line.moved place)) =
      ((start #[]).readLines (heading :: rest)).placed place reading.closeSection.sections
        reading.title := by
  obtain ⟨opened, own, alone⟩ := classify_two reading (start #[]) title
  have noFence := Heading.ofLine?_fence two
  have begun : reading.readLine (heading.moved place) =
      ((start #[]).readLine heading).placed place reading.closeSection.sections
        reading.title := by
    have movedTwo : Heading.ofLine? (heading.moved place).characters = some (2, title) := two
    rw [readLine_of_opens noCode (Heading.ofLine?_fence movedTwo) movedTwo own,
      readLine_of_opens rfl noFence two alone]
    simp only [openSection, placed, closeSection_title, closeSection_code, noCode]
    simp [closeSection, start, OpenSection.moved, Line.moved]
  have within := (start_readLine_two two).1
  rw [List.map_cons, readLines_cons, begun, readLines_placed (Or.inr within), readLines_cons]

end Reading

/-! ### Where the texts meet -/

namespace Source

theorem isEnded_ofString {text : String} (ended : IsEnded text.toList) :
    IsEnded (ofString text).characters := by
  by_cases marked : text.toList.head? = some '\uFEFF'
  · obtain ⟨rest, begins⟩ := List.head?_eq_some_iff.mp marked
    rw [ofString_marked begins]
    rw [begins] at ended
    exact ended.of_cons
  · rw [ofString_characters marked]
    exact ended

/-- A text whose first line is a heading does not begin with a line feed. -/
theorem head?_ne_of_heading {text : String} (unmarked : text.toList.head? ≠ some '\uFEFF')
    {heading : Line} (first : (ofString text).lines.head? = some heading) {found : Nat × List Char}
    (headed : Heading.ofLine? heading.characters = some found) :
    text.toList.head? ≠ some '\n' := by
  intro feed
  obtain ⟨rest, begins⟩ := List.head?_eq_some_iff.mp feed
  have characters := congrArg List.head? (map_characters_lines (ofString text))
  rw [ofString_characters unmarked, begins, rawLines_cons_of_break (by decide) (absurd · (by decide)),
    List.head?_map, first] at characters
  have blank : heading.characters = [] := Option.some.inj characters
  rw [blank] at headed
  cases headed

end Source

/-! ### Documents -/

namespace Document

/-- What is read of a text behind another: its sections come behind those of the first, and all
else is that of the first. -/
def followedBy (place : Placement) (document other : Document) : Document :=
  { document with
    sections := document.sections ++ other.sections.map (Section.moved place)
    lineCount := place.line other.lineCount }

/-- A body that has been read, and lines behind it from a heading of the second level on. -/
theorem readBody_append {frontmatter : Option Frontmatter} {given : Array Section}
    {lines : List Line} {lineCount : Nat} {document : Document}
    (read : readBody frontmatter given lines lineCount = .ok document) {heading : Line}
    {title : List Char} (two : Heading.ofLine? heading.characters = some (2, title))
    (rest : List Line) (place : Placement) (count : Nat) :
    readBody frontmatter given (lines ++ (heading :: rest).map (Line.moved place))
        (place.line count) =
      match readBody none #[] (heading :: rest) count with
      | .ok other => .ok (document.followedBy place other)
      | .error defect => .error (defect.moved place) := by
  rw [readBody_eq_finish, Reading.readLines_append]
  unfold readBody at read
  dsimp only at read
  split at read
  · cases read
  · rename_i noCode
    cases read
    rw [Reading.readLines_of_two noCode two, Reading.finish_placed, readBody_eq_finish]
    cases finished : ((Reading.start #[]).readLines (heading :: rest)).finish none count with
    | error defect => rfl
    | ok other =>
      have untitled : other.title = none :=
        (Reading.finish_eq_ok finished).1.trans (Reading.title_of_two two rest)
      simp only [followedBy, untitled, Option.or_none]

/-- Lines that begin with a heading have no frontmatter. -/
theorem ofLines_of_heading {heading : Line} {found : Nat × List Char}
    (headed : Heading.ofLine? heading.characters = some found) (rest : List Line) :
    ofLines (heading :: rest) =
      .ok (readBody none #[] (heading :: rest) (heading :: rest).length) := by
  refine ofLines_of_bare ?_
  rintro _ ⟨⟩
  exact Heading.isDelimiter_eq_false headed

/-- Lines that have been read, and lines behind them from a heading of the second level on. -/
theorem ofLines_append {lines : List Line} {document : Document}
    (read : ofLines lines = .ok (.ok document)) {heading : Line} {title : List Char}
    (two : Heading.ofLine? heading.characters = some (2, title)) (rest : List Line)
    {place : Placement}
    (count : (lines ++ heading :: rest).length = place.line (heading :: rest).length) :
    ofLines (lines ++ (heading :: rest).map (Line.moved place)) =
      .ok (match readBody none #[] (heading :: rest) (heading :: rest).length with
        | .ok other => .ok (document.followedBy place other)
        | .error defect => .error (defect.moved place)) := by
  have length : (lines ++ (heading :: rest).map (Line.moved place)).length =
      place.line (heading :: rest).length := by
    rw [← count, List.length_append, List.length_map, List.length_append]
  obtain ⟨front, behind, frontmatter, given, rfl, isSetAside, follows, body⟩ := ofLines_cases read
  have stillFollows : MayFollow front (behind ++ (heading :: rest).map (Line.moved place)) := by
    intro empty
    cases behind with
    | nil =>
      rintro _ ⟨⟩
      exact Heading.isDelimiter_eq_false two
    | cons first others => exact follows empty
  rw [List.append_assoc] at length ⊢
  rw [isSetAside.ofLines_eq stillFollows, length, readBody_append body two]

/-- Reading a text is compositional at headings of the second level. Where the first of two texts
has been read and is empty or ends with a line break, and the second begins with a heading of the
second level, both together are read, and fail where the second alone fails, by the same defect in
its place. Otherwise the title and the frontmatter are those of the first text, and the sections are
its sections, and behind them those of the second, moved by the lines and bytes of the first. A byte
order mark of the first is not counted. -/
theorem ofText_append {front back : String} {document : Document}
    (read : ofText front = .ok (document, none)) (ended : IsEnded front.toList)
    (unmarked : back.toList.head? ≠ some '\uFEFF') {heading : Line} {title : List Char}
    (first : (Source.ofString back).lines.head? = some heading)
    (two : Heading.ofLine? heading.characters = some (2, title)) :
    ∃ other fatal whole wholeFatal, ofText back = .ok (other, fatal) ∧
      ofText (front ++ back) = .ok (whole, wholeFatal) ∧
      (wholeFatal.isSome ↔ fatal.isSome) ∧
      let place := Placement.behind (Source.ofString front).lines.length
        (String.ofList (Source.ofString front).characters).utf8ByteSize
      wholeFatal = fatal.map (FatalDefect.moved place) ∧
      (wholeFatal = none →
        whole.sections = document.sections ++ other.sections.map (Section.moved place) ∧
          whole.title = document.title ∧ whole.frontmatter = document.frontmatter ∧
          whole.lineCount = document.lineCount + other.lineCount) := by
  obtain ⟨rest, backLines⟩ := List.head?_eq_some_iff.mp first
  have apart : back.toList.head? ≠ some '\n' := Source.head?_ne_of_heading unmarked first two
  have joined := Source.lines_append (Source.isEnded_ofString ended) unmarked apart
  rw [utf8Length_eq, backLines] at joined
  have lines := ofText_eq_document read
  have count : ((Source.ofString front).lines ++ heading :: rest).length =
      (Placement.behind (Source.ofString front).lines.length
        (String.ofList (Source.ofString front).characters).utf8ByteSize).line
          (heading :: rest).length := by
    rw [List.length_append, Nat.add_comm]
    rfl
  have wholeRead := ofLines_append lines two rest count
  have backRead := ofLines_of_heading two rest
  rw [← backLines] at joined wholeRead backRead
  rw [← joined] at wholeRead
  cases outcome : readBody none #[] (Source.ofString back).lines
      (Source.ofString back).lines.length with
  | error defect =>
    rw [outcome] at wholeRead backRead
    exact ⟨_, _, _, _, ofText_of_defect backRead, ofText_of_defect wholeRead, by simp, rfl, nofun⟩
  | ok other =>
    rw [outcome] at wholeRead backRead
    refine ⟨_, _, _, _, ofText_of_document backRead, ofText_of_document wholeRead, by simp, rfl,
      fun _ => ⟨rfl, rfl, rfl, ?_⟩⟩
    obtain ⟨_, _, _, _, counted⟩ := ofLines_eq_ok lines
    rw [counted, Nat.add_comm]
    rfl

/-- A text with a byte order mark, a frontmatter, a title and a container of modules that ends
inside code. -/
def containerText : String :=
  "\uFEFF---\n\n---\n# é\n## Modules\n~~~\n## x\n~~~\r\n"

/-- A text that begins with a module section. -/
def moduleText : String :=
  "## Module: m\n### Module: n\n\x60\x60\x60\nx\n\x60\x60\x60"

theorem ofText_append_container :
    ∃ document heading title, ofText containerText = .ok (document, none) ∧
      IsEnded containerText.toList ∧ moduleText.toList.head? ≠ some '\uFEFF' ∧
      (Source.ofString moduleText).lines.head? = some heading ∧
      Heading.ofLine? heading.characters = some (2, title) ∧
      ∃ other fatal whole wholeFatal, ofText moduleText = .ok (other, fatal) ∧
        ofText (containerText ++ moduleText) = .ok (whole, wholeFatal) ∧
        (wholeFatal.isSome ↔ fatal.isSome) ∧
        let place := Placement.behind (Source.ofString containerText).lines.length
          (String.ofList (Source.ofString containerText).characters).utf8ByteSize
        wholeFatal = fatal.map (FatalDefect.moved place) ∧
        (wholeFatal = none →
          whole.sections = document.sections ++ other.sections.map (Section.moved place) ∧
            whole.title = document.title ∧ whole.frontmatter = document.frontmatter ∧
            whole.lineCount = document.lineCount + other.lineCount) := by
  obtain ⟨document, read⟩ : ∃ document, ofText containerText = .ok (document, none) := ⟨_, rfl⟩
  have last : containerText.toList.getLast? = some '\n' := by decide +kernel
  have ended : IsEnded containerText.toList := by
    intro own member
    rw [last] at member
    cases member
    rfl
  have unmarked : moduleText.toList.head? ≠ some '\uFEFF' := by decide +kernel
  have two : Heading.ofLine? "## Module: m".toList = some (2, "Module: m".toList) := by
    decide +kernel
  exact ⟨document, _, _, read, ended, unmarked, rfl, two,
    ofText_append read ended unmarked rfl two⟩

end Document

end LlmTxt

/-
This file shows what reading the lines of a document comes to. If the first is a line of dashes, the
frontmatter goes up to the next such line outside code, unless a heading comes before that. Its lines
are set aside, and the others are read as the body. Where the frontmatter ends hangs on its own lines
alone, so a text that begins with the same lines has the same frontmatter, whatever its body is.
-/

import LlmTxt.Proofs.Document.Blocks

namespace LlmTxt

/-! ### The frontmatter -/

/-- Whether a line before the end of a frontmatter is a fence or stands between two. -/
def isFencedIn (fence : Option Fence) (line : List Char) : Bool :=
  fence.isSome || (fenceAfter fence line).isSome

/-- The same end of a frontmatter with one more line before it. -/
def FrontmatterEnd.behind (line : Line) : FrontmatterEnd → FrontmatterEnd
  | .closed body closing rest => .closed (line :: body) closing rest
  | other => other

theorem FrontmatterEnd.behind_eq_closed {line : Line} {found : FrontmatterEnd}
    {body rest : List Line} {closing : Nat} :
    found.behind line = .closed body closing rest ↔
      ∃ inner, body = line :: inner ∧ found = .closed inner closing rest := by
  cases found <;> simp [behind, eq_comm]

theorem frontmatterEnd_cons (fence : Option Fence) (line : Line) (rest : List Line) :
    frontmatterEnd fence (line :: rest) =
      if isFencedIn fence line.characters then
        (frontmatterEnd (fenceAfter fence line.characters) rest).behind line
      else if Frontmatter.isDelimiter line.characters then .closed [] line.number rest
      else if (Heading.ofLine? line.characters).isSome then .heading line.number
      else (frontmatterEnd (fenceAfter fence line.characters) rest).behind line := by
  rw [frontmatterEnd, isFencedIn]
  cases frontmatterEnd (fenceAfter fence line.characters) rest <;> rfl

/-- A frontmatter is closed by the first line of dashes outside code, unless a heading comes before
that. -/
theorem frontmatterEnd_cons_eq_closed {fence : Option Fence} {line : Line}
    {rest body behind : List Line} {closing : Nat} :
    frontmatterEnd fence (line :: rest) = .closed body closing behind ↔
      (isFencedIn fence line.characters = false ∧
          Frontmatter.isDelimiter line.characters = true ∧
          body = [] ∧ closing = line.number ∧ behind = rest) ∨
        ((isFencedIn fence line.characters = true ∨
            Frontmatter.isDelimiter line.characters = false ∧
              (Heading.ofLine? line.characters).isSome = false) ∧
          ∃ inner, body = line :: inner ∧
            frontmatterEnd (fenceAfter fence line.characters) rest =
              .closed inner closing behind) := by
  rw [frontmatterEnd_cons]
  cases isFencedIn fence line.characters with
  | true => simp [FrontmatterEnd.behind_eq_closed]
  | false =>
    cases Frontmatter.isDelimiter line.characters with
    | true =>
      constructor
      · rintro ⟨⟩
        exact Or.inl ⟨rfl, rfl, rfl, rfl, rfl⟩
      · rintro (⟨_, _, rfl, rfl, rfl⟩ | ⟨inCode | ⟨noDelimiter, _⟩, _⟩)
        · rfl
        · cases inCode
        · cases noDelimiter
    | false =>
      cases (Heading.ofLine? line.characters).isSome with
      | true => simp
      | false => simp [FrontmatterEnd.behind_eq_closed]

theorem frontmatterEnd_eq_closed {fence : Option Fence} {lines body behind : List Line}
    {closing : Nat} (found : frontmatterEnd fence lines = .closed body closing behind) :
    ∃ closer, lines = body ++ closer :: behind ∧ closer.number = closing ∧
      Frontmatter.isDelimiter closer.characters = true := by
  induction lines generalizing fence body with
  | nil => cases found
  | cons line rest inductionHypothesis =>
    rcases frontmatterEnd_cons_eq_closed.mp found with
      ⟨_, delimiter, rfl, rfl, rfl⟩ | ⟨_, inner, rfl, further⟩
    · exact ⟨line, rfl, rfl, delimiter⟩
    · obtain ⟨closer, cut, number, delimiter⟩ := inductionHypothesis further
      exact ⟨closer, by rw [cut]; rfl, number, delimiter⟩

theorem frontmatterEnd_eq_heading {fence : Option Fence} {lines : List Line} {number : Nat}
    (found : frontmatterEnd fence lines = .heading number) :
    ∃ line ∈ lines, line.number = number := by
  induction lines generalizing fence with
  | nil => cases found
  | cons line rest inductionHypothesis =>
    have further {next : Option Fence}
        (goOn : (frontmatterEnd next rest).behind line = .heading number) :
        ∃ own ∈ line :: rest, own.number = number := by
      have later : frontmatterEnd next rest = .heading number := by
        cases ends : frontmatterEnd next rest <;> rw [ends] at goOn <;> cases goOn
        rfl
      obtain ⟨own, member, same⟩ := inductionHypothesis later
      exact ⟨own, List.mem_cons_of_mem _ member, same⟩
    rw [frontmatterEnd_cons] at found
    split at found
    · exact further found
    · split at found
      · cases found
      · split at found
        · cases found
          exact ⟨line, List.mem_cons_self, rfl⟩
        · exact further found

/-- A line without its offset. -/
def Line.unplaced (line : Line) : Line :=
  { line with offset := 0 }

theorem Line.unplaced_eq_iff {line other : Line} :
    line.unplaced = other.unplaced ↔
      line.number = other.number ∧ line.characters = other.characters := by
  simp [unplaced]

theorem Line.map_unplaced_eq {lines others : List Line}
    (numbers : lines.map Line.number = others.map Line.number)
    (characters : lines.map Line.characters = others.map Line.characters) :
    lines.map Line.unplaced = others.map Line.unplaced := by
  induction lines generalizing others with
  | nil =>
    rw [List.map_eq_nil_iff.mp numbers.symm]
  | cons line rest inductionHypothesis =>
    obtain ⟨other, others, rfl, number, further⟩ := List.map_eq_cons_iff.mp numbers.symm
    obtain ⟨own, rests⟩ := List.cons.inj characters
    have unplaced := unplaced_eq_iff.mpr ⟨number.symm, own⟩
    rw [List.map_cons, List.map_cons, unplaced, inductionHypothesis further.symm rests]

/-- Where a frontmatter ends hangs on its own lines alone. -/
theorem frontmatterEnd_of_same {fence : Option Fence} {body twinBody behind : List Line}
    {closer twinCloser : Line}
    (found : frontmatterEnd fence (body ++ closer :: behind) =
      .closed body closer.number behind)
    (bodies : body.map Line.unplaced = twinBody.map Line.unplaced)
    (closers : closer.unplaced = twinCloser.unplaced) (twinBehind : List Line) :
    frontmatterEnd fence (twinBody ++ twinCloser :: twinBehind) =
      .closed twinBody twinCloser.number twinBehind := by
  induction body generalizing fence twinBody with
  | nil =>
    have same := (Line.unplaced_eq_iff.mp closers).2
    rw [List.map_eq_nil_iff.mp bodies.symm, List.nil_append, frontmatterEnd_cons_eq_closed, ← same]
    rcases frontmatterEnd_cons_eq_closed.mp found with
      ⟨noCode, delimiter, _⟩ | ⟨_, inner, noBody, _⟩
    · exact Or.inl ⟨noCode, delimiter, rfl, rfl, rfl⟩
    · cases noBody
  | cons line rest inductionHypothesis =>
    obtain ⟨other, others, rfl, unplaced, further⟩ := List.map_eq_cons_iff.mp bodies.symm
    have same := (Line.unplaced_eq_iff.mp unplaced).2
    rw [List.cons_append, frontmatterEnd_cons_eq_closed, same]
    rcases frontmatterEnd_cons_eq_closed.mp found with
      ⟨_, _, noBody, _⟩ | ⟨goesOn, inner, whole, later⟩
    · cases noBody
    · cases whole
      exact Or.inr ⟨goesOn, others, rfl, inductionHypothesis later further.symm⟩

/-- Lines behind the end of a frontmatter do not change where it ends. -/
theorem frontmatterEnd_append {fence : Option Fence} {lines body behind : List Line}
    {closing : Nat} (found : frontmatterEnd fence lines = .closed body closing behind)
    (more : List Line) :
    frontmatterEnd fence (lines ++ more) = .closed body closing (behind ++ more) := by
  obtain ⟨closer, rfl, rfl, _⟩ := frontmatterEnd_eq_closed found
  rw [List.append_assoc, List.cons_append]
  exact frontmatterEnd_of_same found rfl rfl (behind ++ more)

/-! ### What reading a document comes to -/

namespace Document

/-- How the lines of a document that has been read are cut: its frontmatter, if it has one, the
preamble and the blocks. -/
inductive IsCutFrom (lines : List Line) (document : Document) (preamble : List Line)
    (blocks : List Block) : Prop where
  | bare (lines_eq : lines = preamble ++ blocks.flatMap Block.lines)
      (frontmatter_eq : document.frontmatter = none)
      (sections_eq : document.sections = blocks.map Block.part)
  | fronted (opener : Line) (body : List Line) (closer : Line) (frontmatter : Frontmatter)
      (lines_eq : lines =
        opener :: (body ++ closer :: (preamble ++ blocks.flatMap Block.lines)))
      (loaded : Frontmatter.ofLines body closer.number = .ok frontmatter)
      (frontmatter_eq : document.frontmatter = some frontmatter)
      (sections_eq : document.sections =
        frontmatterSection body closer.number :: blocks.map Block.part)

theorem ofLines_of_bare {lines : List Line}
    (bare : ∀ first ∈ lines.head?, Frontmatter.isDelimiter first.characters = false) :
    ofLines lines = .ok (readBody none #[] lines lines.length) := by
  cases lines with
  | nil => rfl
  | cons first rest =>
    have noDelimiter := bare first rfl
    unfold ofLines
    dsimp only
    rw [if_neg (Bool.eq_false_iff.mp noDelimiter)]
    rfl

theorem ofLines_of_fronted {opener closer : Line} {body behind : List Line}
    {frontmatter : Frontmatter} (delimiter : Frontmatter.isDelimiter opener.characters = true)
    (found : frontmatterEnd none (body ++ closer :: behind) = .closed body closer.number behind)
    (loaded : Frontmatter.ofLines body closer.number = .ok frontmatter) :
    ofLines (opener :: (body ++ closer :: behind)) =
      .ok (readBody (some frontmatter) #[frontmatterSection body closer.number] behind
        (opener :: (body ++ closer :: behind)).length) := by
  unfold ofLines
  dsimp only
  rw [if_pos delimiter, found]
  dsimp only
  rw [loaded]
  rfl

/-- Some lines are set aside as the frontmatter, or none, before the others are read as the body. -/
inductive IsSetAside : List Line → Option Frontmatter → Array Section → Prop where
  | bare : IsSetAside [] none #[]
  | closed {opener closer : Line} {body : List Line} {frontmatter : Frontmatter}
      (delimiter : Frontmatter.isDelimiter opener.characters = true)
      (found : ∀ behind, frontmatterEnd none (body ++ closer :: behind) =
        .closed body closer.number behind)
      (loaded : Frontmatter.ofLines body closer.number = .ok frontmatter) :
      IsSetAside (opener :: (body ++ [closer])) (some frontmatter)
        #[frontmatterSection body closer.number]

/-- Lines may stand behind those that are set aside: where none are, they do not begin with a line
of dashes. -/
def MayFollow (front behind : List Line) : Prop :=
  front = [] → ∀ first ∈ behind.head?, Frontmatter.isDelimiter first.characters = false

theorem IsSetAside.ofLines_eq {front behind : List Line} {frontmatter : Option Frontmatter}
    {given : Array Section} (isSetAside : IsSetAside front frontmatter given)
    (follows : MayFollow front behind) :
    ofLines (front ++ behind) =
      .ok (readBody frontmatter given behind (front ++ behind).length) := by
  cases isSetAside with
  | bare => exact ofLines_of_bare (follows rfl)
  | closed delimiter found loaded =>
    rw [List.cons_append, List.append_assoc, List.singleton_append]
    exact ofLines_of_fronted delimiter (found behind) loaded

/-- What reading lines comes to. They begin with a frontmatter that nothing closes, or some are set
aside and the others are read as the body. -/
theorem ofLines_outcome {lines : List Line} {result : Except FatalDefect Document}
    (read : ofLines lines = .ok result) :
    (∃ opener rest, lines = opener :: rest ∧
      Frontmatter.isDelimiter opener.characters = true ∧
      ((∃ number, frontmatterEnd none rest = .heading number ∧
          result = .error (.headingInFrontmatter number)) ∨
        frontmatterEnd none rest = .missing ∧
          result = .error (.unclosedFrontmatter lines.length))) ∨
    ∃ front behind frontmatter given, lines = front ++ behind ∧
      IsSetAside front frontmatter given ∧ MayFollow front behind ∧
      result = readBody frontmatter given behind lines.length := by
  unfold ofLines at read
  dsimp only at read
  split at read
  · exact Or.inr ⟨[], [], none, #[], rfl, .bare, fun _ => nofun, (Except.ok.inj read).symm⟩
  · rename_i first rest
    split at read
    · rename_i delimiter
      split at read
      · rename_i number found
        exact Or.inl ⟨first, rest, rfl, delimiter,
          Or.inl ⟨number, found, (Except.ok.inj read).symm⟩⟩
      · rename_i found
        exact Or.inl ⟨first, rest, rfl, delimiter, Or.inr ⟨found, (Except.ok.inj read).symm⟩⟩
      · rename_i body closing behind found
        obtain ⟨closer, rest_eq, rfl, _⟩ := frontmatterEnd_eq_closed found
        cases loaded : Frontmatter.ofLines body closer.number with
        | error failure =>
          rw [loaded] at read
          cases read
        | ok frontmatter =>
          rw [loaded] at read
          rw [rest_eq] at found
          have isSetAside := IsSetAside.closed delimiter (frontmatterEnd_of_same found rfl rfl) loaded
          exact Or.inr ⟨_, behind, _, _, by rw [rest_eq]; simp, isSetAside, nofun,
            (Except.ok.inj read).symm⟩
    · rename_i noDelimiter
      refine Or.inr ⟨[], _, none, #[], rfl, .bare, ?_, (Except.ok.inj read).symm⟩
      rintro _ _ ⟨⟩
      exact Bool.eq_false_iff.mpr noDelimiter

theorem ofLines_cases {lines : List Line} {document : Document}
    (read : ofLines lines = .ok (.ok document)) :
    ∃ front behind frontmatter given, lines = front ++ behind ∧
      IsSetAside front frontmatter given ∧ MayFollow front behind ∧
      readBody frontmatter given behind lines.length = .ok document := by
  rcases ofLines_outcome read with
    ⟨_, _, _, _, ⟨_, _, failed⟩ | ⟨_, failed⟩⟩ |
      ⟨front, behind, frontmatter, given, cut, isSetAside, follows, body⟩
  · cases failed
  · cases failed
  · exact ⟨front, behind, frontmatter, given, cut, isSetAside, follows, body.symm⟩

/-- A document that has been read is a cut of its lines. -/
theorem ofLines_eq_ok {lines : List Line} {document : Document}
    (read : ofLines lines = .ok (.ok document)) :
    ∃ preamble blocks, document.IsCutFrom lines preamble blocks ∧
      (∀ block ∈ blocks, block.IsComplete) ∧ document.lineCount = lines.length := by
  obtain ⟨front, behind, frontmatter, given, rfl, isSetAside, _, body⟩ := ofLines_cases read
  obtain ⟨preamble, blocks, rfl, complete, sections, own, count⟩ := readBody_eq_ok body
  refine ⟨preamble, blocks, ?_, complete, count⟩
  cases isSetAside with
  | bare => exact .bare rfl own sections
  | @closed opener closer inner frontmatter _ _ loaded =>
    exact .fronted opener inner closer frontmatter (by simp) loaded own sections

/-- A fatal defect of a document names lines of it. -/
theorem ofLines_eq_error {lines : List Line} {defect : FatalDefect}
    (read : ofLines lines = .ok (.error defect)) :
    (∃ line ∈ lines, defect = .headingInFrontmatter line.number) ∨
      defect = .unclosedFrontmatter lines.length ∨
      ∃ opener ∈ lines, ∃ kind,
        defect = .unclosedCode opener.number opener.offset lines.length kind := by
  rcases ofLines_outcome read with
    ⟨opener, rest, cut, _, ⟨number, found, failed⟩ | ⟨_, failed⟩⟩ |
      ⟨front, behind, _, _, cut, _, _, body⟩
  · cases failed
    obtain ⟨line, member, same⟩ := frontmatterEnd_eq_heading found
    refine Or.inl ⟨line, ?_, by rw [same]⟩
    rw [cut]
    exact List.mem_cons_of_mem _ member
  · cases failed
    exact Or.inr (Or.inl rfl)
  · obtain ⟨line, member, same⟩ := readBody_eq_error body.symm
    refine Or.inr (Or.inr ⟨line, ?_, same⟩)
    rw [cut]
    exact List.mem_append_right front member

end Document

end LlmTxt

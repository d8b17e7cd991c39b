/-
This file shows that reading a document loses no line and counts none twice. Its sections, other
than the one that stands for the frontmatter, lie behind one another without a gap: each holds
all lines from the one behind its heading up to the next heading, as they stand in the text, and
the last section goes on to the end of the text. A line that no section holds stands before the
first heading, behind the frontmatter if there is one.

How reading comes by its sections plays no part here. Once the lines of a text are cut into
blocks, the numbers of the lines of a block tell where it lies.
-/

import LlmTxt.Proofs.Document.Places

namespace LlmTxt

open Text

/-! ### Lines between two numbers -/

/-- The lines of a text between two numbers, without those of the numbers themselves: the number
and the text of each. -/
def Source.between (source : Source) (first next : Nat) : List (Nat × String) :=
  (source.lines.filter fun line => first < line.number && line.number < next).map fun line =>
    (line.number, line.text)

/-- The lines that a section holds, whether or not they are code: the number and the text of
each. -/
def Section.held (part : Section) : List (Nat × String) :=
  part.lines.map fun line => (line.number, line.text)

/-- Whether a line is one that a section spans or holds. -/
def Section.hasLine (part : Section) (number : Nat) : Bool :=
  part.span.first ≤ number && number ≤ part.span.last || part.held.any (·.1 == number)

/-- A section begins at its heading, holds all lines behind it up to another line, and ends on the
last one of them that is not blank. -/
structure Section.Fills (source : Source) (part : Section) (next : Nat) : Prop where
  heading_eq : ∃ line ∈ source.lines, line.number = part.span.first ∧
    ∃ title, Heading.ofLine? line.characters = some (part.level, title) ∧
      part.title = String.ofList title
  first_lt : part.span.first < next
  held_eq : part.held = source.between part.span.first next
  body_eq : part.body = "\n".intercalate ((source.between part.span.first next).map (·.2))
  last_eq : part.span.last =
    ((source.between part.span.first next).filter fun line =>
      !isAllBlank line.2.toList).getLast?.elim part.span.first (·.1)

/-- Sections fill a text from one line on, each up to the heading of the next, and the last one up
to another line. -/
inductive Section.Tiles (source : Source) (stop : Nat) : Nat → List Section → Prop where
  | nil : Tiles source stop stop []
  | cons {part : Section} {rest : List Section} {next : Nat} (fills : part.Fills source next)
      (further : Tiles source stop next rest) : Tiles source stop part.span.first (part :: rest)

namespace Source

variable {source : Source} {front inner back : List Line}

/-- The numbers of lines that stand together in a text follow on those of the lines before. -/
theorem number_of_mem_split (cut : source.lines = front ++ (inner ++ back)) {line : Line}
    (member : line ∈ inner) :
    front.length < line.number ∧ line.number ≤ front.length + inner.length := by
  obtain ⟨before, after, split⟩ := List.append_of_mem member
  have whole : source.lines = (front ++ before) ++ line :: (after ++ back) := by
    rw [cut, split]
    simp
  have number := number_eq_of_split whole
  have bound := congrArg List.length split
  rw [List.length_append] at number
  rw [List.length_append, List.length_cons] at bound
  omega

/-- Lines that stand together in a text are those between the lines around them. -/
theorem between_eq_of_split (cut : source.lines = front ++ (inner ++ back)) :
    source.between front.length (front.length + inner.length + 1) =
      inner.map fun line => (line.number, line.text) := by
  have inFront : ∀ line ∈ front,
      ¬(front.length < line.number && line.number < front.length + inner.length + 1) = true := by
    intro line member
    have whole : source.lines = [] ++ (front ++ (inner ++ back)) := cut
    have number := number_of_mem_split whole member
    simp only [List.length_nil] at number
    simp only [Bool.and_eq_true, decide_eq_true_eq]
    omega
  have inInner : ∀ line ∈ inner,
      (front.length < line.number && line.number < front.length + inner.length + 1) = true := by
    intro line member
    have number := number_of_mem_split cut member
    simp only [Bool.and_eq_true, decide_eq_true_eq]
    omega
  have inBack : ∀ line ∈ back,
      ¬(front.length < line.number && line.number < front.length + inner.length + 1) = true := by
    intro line member
    have whole : source.lines = (front ++ inner) ++ (back ++ []) := by
      rw [cut, List.append_nil, List.append_assoc]
    have number := number_of_mem_split whole member
    simp only [List.length_append] at number
    simp only [Bool.and_eq_true, decide_eq_true_eq]
    omega
  unfold between
  rw [cut, List.filter_append, List.filter_append, List.filter_eq_nil_iff.mpr inFront,
    List.filter_eq_self.mpr inInner, List.filter_eq_nil_iff.mpr inBack, List.nil_append,
    List.append_nil]

theorem mem_between {first next : Nat} {line : Nat × String}
    (member : line ∈ source.between first next) : first < line.1 ∧ line.1 < next := by
  obtain ⟨own, kept, rfl⟩ := List.mem_map.mp member
  simpa using (List.mem_filter.mp kept).2

theorem HasLine.exists_line {number : Nat} (there : source.HasLine number) :
    ∃ line ∈ source.lines, line.number = number := by
  have bound := there.number_le
  have positive := there.number_pos
  have found : source.lines[number - 1]? = some source.lines[number - 1] :=
    List.getElem?_eq_getElem (by omega)
  have own := found
  rw [getElem?_lines] at own
  obtain ⟨_, _, same⟩ := Option.map_eq_some_iff.mp own
  refine ⟨_, List.mem_of_getElem? found, ?_⟩
  rw [← same]
  exact Nat.sub_add_cancel positive

/-- Between two numbers stand the lines of all numbers between them. -/
theorem any_between {first next number : Nat} (there : source.HasLine number) :
    (source.between first next).any (·.1 == number) = (first < number && number < next) := by
  rw [Bool.eq_iff_iff, List.any_eq_true]
  constructor
  · rintro ⟨line, member, same⟩
    have within := mem_between member
    rw [eq_of_beq same] at within
    simpa using within
  · intro within
    obtain ⟨line, member, same⟩ := there.exists_line
    refine ⟨(line.number, line.text), List.mem_map_of_mem (List.mem_filter.mpr ⟨member, ?_⟩), ?_⟩
    · rw [same]
      exact within
    · exact beq_iff_eq.mpr same

end Source

/-! ### Sections that fill a text -/

namespace Section

variable {source : Source} {part : Section} {parts : List Section} {start next stop : Nat}

theorem Fills.first_le_last (fills : part.Fills source next) :
    part.span.first ≤ part.span.last := by
  rw [fills.last_eq]
  cases last : ((source.between part.span.first next).filter fun line =>
      !isAllBlank line.2.toList).getLast? with
  | none => exact Nat.le_refl _
  | some line =>
    have member := List.mem_of_mem_filter (List.mem_of_getLast? last)
    exact Nat.le_of_lt (Source.mem_between member).1

theorem Fills.last_lt (fills : part.Fills source next) : part.span.last < next := by
  rw [fills.last_eq]
  cases last : ((source.between part.span.first next).filter fun line =>
      !isAllBlank line.2.toList).getLast? with
  | none => exact fills.first_lt
  | some line =>
    have member := List.mem_of_mem_filter (List.mem_of_getLast? last)
    exact (Source.mem_between member).2

/-- A section has the line of its heading and those behind it, and no other. -/
theorem Fills.hasLine_eq (fills : part.Fills source next) {number : Nat}
    (there : source.HasLine number) :
    part.hasLine number = (part.span.first ≤ number && number < next) := by
  have first := fills.first_le_last
  have last := fills.last_lt
  unfold hasLine
  rw [fills.held_eq, Source.any_between there, Bool.eq_iff_iff]
  simp only [Bool.or_eq_true, Bool.and_eq_true, decide_eq_true_eq]
  omega

theorem Tiles.start_le_first (tiles : Tiles source stop start parts) :
    ∀ part ∈ parts, start ≤ part.span.first := by
  induction tiles with
  | nil => exact fun _ member => nomatch member
  | cons fills further inductionHypothesis =>
    refine List.forall_mem_cons.mpr ⟨Nat.le_refl _, fun other member => ?_⟩
    exact Nat.le_trans (Nat.le_of_lt fills.first_lt) (inductionHypothesis other member)

/-- Sections that fill a text stand in it in their order, apart from each other. -/
theorem Tiles.pairwise (tiles : Tiles source stop start parts) :
    parts.Pairwise fun earlier later => earlier.span.last < later.span.first := by
  induction tiles with
  | nil => exact List.Pairwise.nil
  | cons fills further inductionHypothesis =>
    refine List.pairwise_cons.mpr ⟨fun later member => ?_, inductionHypothesis⟩
    exact Nat.lt_of_lt_of_le fills.last_lt (further.start_le_first later member)

theorem Tiles.pairwise_first (tiles : Tiles source stop start parts) :
    (parts.map (·.span.first)).Pairwise (· < ·) := by
  rw [List.pairwise_map]
  induction tiles with
  | nil => exact List.Pairwise.nil
  | cons fills further inductionHypothesis =>
    refine List.pairwise_cons.mpr ⟨fun later member => ?_, inductionHypothesis⟩
    exact Nat.lt_of_lt_of_le fills.first_lt (further.start_le_first later member)

/-- Each line from the first heading on is a line of exactly one section. -/
theorem Tiles.countP_hasLine (tiles : Tiles source (source.lines.length + 1) start parts)
    {number : Nat} (there : source.HasLine number) :
    parts.countP (·.hasLine number) = if number < start then 0 else 1 := by
  have bound := there.number_le
  induction tiles with
  | nil => rw [List.countP_nil, if_pos (by omega)]
  | @cons part rest next fills further inductionHypothesis =>
    have order := fills.first_lt
    rw [List.countP_cons, inductionHypothesis, fills.hasLine_eq there]
    simp only [Bool.and_eq_true, decide_eq_true_eq]
    split <;> split <;> split <;> omega

end Section

/-! ### Blocks of a text -/

namespace Block

variable {source : Source} {front back : List Line} {block : Block}

theorem held_part (block : Block) :
    block.part.held = block.body.map fun line => (line.number, line.text) :=
  Body.map_sourceLines block.body

/-- The last line of a section is the last one that it holds and that is not blank. -/
theorem lastLine_eq (block : Block) :
    block.opened.lastLine =
      (block.part.held.filter fun line => !isAllBlank line.2.toList).getLast?.elim
        block.heading.number (·.1) := by
  have last (lines : List SourceLine) (start : Nat) :
      lines.foldl (fun last line => if line.isBlank then last else line.number) start =
        ((lines.map fun line => (line.number, line.text)).filter fun line =>
          !isAllBlank line.2.toList).getLast?.elim start (·.1) := by
    induction lines using List.reverseRecOn with
    | nil => rfl
    | append_singleton lines line inductionHypothesis =>
      rw [List.foldl_append, List.foldl_cons, List.foldl_nil, List.map_append, List.filter_append,
        inductionHypothesis, List.map_singleton, List.filter_singleton, SourceLine.isBlank]
      cases isAllBlank line.text.toList <;> simp
  unfold OpenSection.lastLine opened
  rw [List.foldl_toArray, last]
  rfl

/-- A complete block of a text makes a section that goes on to the line behind the block. -/
theorem fills (cut : source.lines = front ++ (block.lines ++ back)) (complete : block.IsComplete) :
    block.part.Fills source (front.length + block.lines.length + 1) := by
  have headed : source.lines = front ++ block.heading :: (block.body ++ back) := cut
  have first := Source.number_eq_of_split headed
  have body : source.lines = (front ++ [block.heading]) ++ (block.body ++ back) := by
    rw [cut, lines]
    simp
  have between : source.between block.part.span.first (front.length + block.lines.length + 1) =
      block.part.held := by
    have same := Source.between_eq_of_split body
    rw [List.length_append, List.length_singleton] at same
    have next : front.length + block.lines.length + 1 =
        front.length + 1 + block.body.length + 1 := by
      rw [lines, List.length_cons]
      omega
    rw [held_part, ← same, part_span, next]
    exact congrArg (source.between · _) first
  have heading : block.heading ∈ source.lines := by simp [cut, lines]
  refine ⟨⟨block.heading, heading, rfl, block.title, complete.heading_eq, rfl⟩, ?_, between.symm, ?_,
    ?_⟩
  · change block.heading.number < _
    rw [first, lines, List.length_cons]
    omega
  · rw [between, Section.held, List.map_map]
    rfl
  · rw [between]
    exact block.lastLine_eq

/-- Complete blocks that a text ends with fill it from the first one on. -/
theorem tiles {blocks : List Block} (cut : source.lines = front ++ blocks.flatMap Block.lines)
    (complete : ∀ block ∈ blocks, block.IsComplete) :
    Section.Tiles source (source.lines.length + 1) (front.length + 1) (blocks.map Block.part) := by
  induction blocks generalizing front with
  | nil =>
    rw [List.flatMap_nil, List.append_nil] at cut
    rw [← cut]
    exact .nil
  | cons block rest inductionHypothesis =>
    obtain ⟨own, others⟩ := List.forall_mem_cons.mp complete
    rw [List.flatMap_cons] at cut
    have headed : source.lines =
        front ++ block.heading :: (block.body ++ rest.flatMap Block.lines) := cut
    have first : front.length + 1 = block.part.span.first :=
      (Source.number_eq_of_split headed).symm
    have behind : source.lines = (front ++ block.lines) ++ rest.flatMap Block.lines := by
      rw [cut, List.append_assoc]
    have further := inductionHypothesis behind others
    rw [List.length_append] at further
    rw [first]
    exact .cons (fills cut own) further

end Block

/-! ### Kinds -/

theorem SectionKind.ofTitle_ne_frontmatter (title : List Char) :
    SectionKind.ofTitle title ≠ .frontmatter := by
  unfold ofTitle
  cases found : vocabulary.find? fun entry => entry.1.toList == normalizeTitle title with
  | none => exact nofun
  | some entry =>
    have known : ∀ entry ∈ vocabulary, entry.2 ≠ .frontmatter := by decide
    exact known entry (List.mem_of_find?_eq_some found)

namespace Reading

/-- No heading begins a section for the frontmatter. -/
theorem classify_ne_frontmatter {reading : Reading} {level : Nat} {title : List Char}
    {kind : SectionKind} {moduleName : Option String}
    (opens : reading.classify level title = some (kind, moduleName)) : kind ≠ .frontmatter := by
  unfold classify at opens
  dsimp only at opens
  split at opens
  · split at opens
    · rw [← (Prod.mk.inj (Option.some.inj opens)).1]
      exact nofun
    · rw [← (Prod.mk.inj (Option.some.inj opens)).1]
      exact SectionKind.ofTitle_ne_frontmatter title
  · split at opens
    · obtain ⟨_, _, same⟩ := Option.map_eq_some_iff.mp opens
      rw [← (Prod.mk.inj same).1]
      exact nofun
    · split at opens
      · rw [← (Prod.mk.inj (Option.some.inj opens)).1]
        exact nofun
      · cases opens

/-- The sections that have been read and the one that is being read begin at headings. -/
structure IsHeaded (given : List Section) (reading : Reading) : Prop where
  sections_eq : ∃ read, reading.sections.toList = given ++ read ∧
    ∀ part ∈ read, part.kind ≠ .frontmatter
  current_kind : ∀ part, reading.current = some part → part.kind ≠ .frontmatter

variable {given : List Section} {reading : Reading}

theorem IsHeaded.closeSection (headed : reading.IsHeaded given) :
    reading.closeSection.IsHeaded given := by
  obtain ⟨read, sections, kinds⟩ := headed.sections_eq
  unfold Reading.closeSection
  cases current : reading.current with
  | none => exact headed
  | some part =>
    refine ⟨⟨read ++ [part.close], by simp [sections], ?_⟩, nofun⟩
    intro other member
    rcases List.mem_append.mp member with earlier | last
    · exact kinds other earlier
    · rw [List.mem_singleton.mp last]
      exact headed.current_kind part current

theorem IsHeaded.readLine (headed : reading.IsHeaded given) (line : Line) :
    (reading.readLine line).IsHeaded given := by
  rcases reading.readLine_cases line with
    ⟨level, title, kind, moduleName, _, _, _, opens, read⟩ | extended
  · rw [read]
    refine ⟨headed.closeSection.sections_eq, ?_⟩
    rintro _ ⟨⟩
    exact classify_ne_frontmatter opens
  · refine ⟨extended.sections_eq ▸ headed.sections_eq, ?_⟩
    rw [extended.current_eq]
    intro part found
    obtain ⟨own, current, rfl⟩ := Option.map_eq_some_iff.mp found
    exact headed.current_kind own current

theorem isHeaded_readLines (given : Array Section) (lines : List Line) :
    ((Reading.start given).readLines lines).IsHeaded given.toList := by
  induction lines using List.reverseRecOn with
  | nil => exact ⟨⟨[], by simp [readLines, start], by simp⟩, nofun⟩
  | append_singleton lines line inductionHypothesis =>
    unfold readLines at inductionHypothesis ⊢
    rw [List.foldl_append, List.foldl_cons, List.foldl_nil]
    exact inductionHypothesis.readLine line

end Reading

/-! ### Documents -/

namespace Document

theorem exists_of_readBody {frontmatter : Option Frontmatter} {given : Array Section}
    {lines : List Line} {lineCount : Nat} {document : Document}
    (read : readBody frontmatter given lines lineCount = .ok document) :
    document.frontmatter = frontmatter ∧ ∃ parts, document.sections = given.toList ++ parts ∧
      ∀ part ∈ parts, part.kind ≠ .frontmatter := by
  have headed := (Reading.isHeaded_readLines given lines).closeSection
  unfold readBody at read
  dsimp only at read
  split at read
  · cases read
  · cases read
    exact ⟨rfl, headed.sections_eq⟩

/-- A section stands for the frontmatter only if there is one, and it is the first section. -/
theorem kind_ne_frontmatter {lines : List Line} {document : Document}
    (read : ofLines lines = .ok (.ok document)) :
    (document.frontmatter = none → ∀ part ∈ document.sections, part.kind ≠ .frontmatter) ∧
      ∀ part ∈ document.sections.tail, part.kind ≠ .frontmatter := by
  obtain ⟨_, _, _, _, _, isSetAside, _, body⟩ := ofLines_cases read
  obtain ⟨own, parts, sections, kinds⟩ := exists_of_readBody body
  rw [own, sections]
  cases isSetAside with
  | bare => exact ⟨fun _ => kinds, fun part member => kinds part (List.mem_of_mem_tail member)⟩
  | closed => exact ⟨nofun, kinds⟩

/-- The section that stands for the frontmatter spans a text from the first line to another, and
holds the lines between these two. -/
structure IsFront (source : Source) (part : Section) : Prop where
  kind_eq : part.kind = .frontmatter
  span_first : part.span.first = 1
  last_hasLine : source.HasLine part.span.last
  held_eq : part.held = source.between 1 part.span.last

/-- How the sections of a document share the lines of its text. The section for the frontmatter
comes first, if there is one. The other sections fill the text from a line on, in their order and
apart from each other. Every line is one of exactly one section, but for those behind the
frontmatter and before the first heading, which are of none. -/
structure IsTiled (source : Source) (document : Document) (front : Option Section) (start : Nat)
    (parts : List Section) : Prop where
  sections_eq : document.sections = front.toList ++ parts
  front_isSome : front.isSome = document.frontmatter.isSome
  isFront : ∀ part ∈ front, IsFront source part ∧ part.span.last < start
  parts_kind : ∀ part ∈ parts, part.kind ≠ .frontmatter
  first_increases : (parts.map (·.span.first)).Pairwise (· < ·)
  tiles : Section.Tiles source (source.lines.length + 1) start parts
  apart : document.sections.Pairwise fun earlier later => earlier.span.last < later.span.first
  shared : ∀ number, source.HasLine number →
    document.sections.countP (·.hasLine number) =
      if (∀ part ∈ front, part.span.last < number) ∧ number < start then 0 else 1

theorem IsFront.hasLine_eq {source : Source} {part : Section} (isFront : IsFront source part)
    {number : Nat} (there : source.HasLine number) :
    part.hasLine number = decide (number ≤ part.span.last) := by
  have positive := there.number_pos
  unfold Section.hasLine
  rw [isFront.span_first, isFront.held_eq, Source.any_between there, Bool.eq_iff_iff]
  simp only [Bool.or_eq_true, Bool.and_eq_true, decide_eq_true_eq]
  omega

theorem isFront_frontmatterSection {source : Source} {opener closer : Line} {body behind : List Line}
    (cut : source.lines = opener :: (body ++ closer :: behind)) :
    IsFront source (frontmatterSection body closer.number) where
  kind_eq := rfl
  span_first := rfl
  last_hasLine := Source.hasLine_of_mem (by simp [cut])
  held_eq := by
    have closing : source.lines = (opener :: body) ++ closer :: behind := cut
    have inner : source.lines = [opener] ++ (body ++ closer :: behind) := cut
    have between := Source.between_eq_of_split inner
    rw [List.length_singleton] at between
    change _ = source.between 1 closer.number
    rw [Source.number_eq_of_split closing, List.length_cons, Nat.add_comm body.length 1, between,
      Section.held, frontmatterSection, List.map_map]
    rfl

/-- Where a document has a frontmatter, its section comes before those that fill the text. -/
theorem isTiled_fronted {source : Source} {document : Document} {front : Section}
    {parts : List Section} {start : Nat} (sections_eq : document.sections = front :: parts)
    (frontmatter : document.frontmatter.isSome = true) (isFront : IsFront source front)
    (before : front.span.last < start) (kinds : ∀ part ∈ parts, part.kind ≠ .frontmatter)
    (tiles : Section.Tiles source (source.lines.length + 1) start parts) :
    document.IsTiled source (some front) start parts where
  sections_eq := sections_eq
  front_isSome := frontmatter.symm
  isFront := by
    rintro _ ⟨⟩
    exact ⟨isFront, before⟩
  parts_kind := kinds
  first_increases := tiles.pairwise_first
  tiles := tiles
  apart := by
    rw [sections_eq, List.pairwise_cons]
    refine ⟨fun later member => ?_, tiles.pairwise⟩
    exact Nat.lt_of_lt_of_le before (tiles.start_le_first later member)
  shared := by
    intro number there
    rw [sections_eq, List.countP_cons, tiles.countP_hasLine there, isFront.hasLine_eq there]
    simp only [Option.mem_def, Option.some.injEq, forall_eq', decide_eq_true_eq]
    split <;> split <;> split <;> omega

/-- The sections of a document that has been read share the lines of its text without losing or
doubling one. -/
theorem sections_tile_text {text : String} {document : Document}
    (read : ofText text = .ok (document, none)) :
    ∃ front start parts, document.IsTiled (Source.ofString text) front start parts := by
  obtain ⟨preamble, blocks, cut, complete⟩ := ofText_eq_ok read
  obtain ⟨bare, behind⟩ := kind_ne_frontmatter (ofText_eq_document read)
  cases cut with
  | bare lines_eq frontmatter_eq sections_eq =>
    have tiles := Block.tiles lines_eq complete
    refine ⟨none, _, blocks.map Block.part, sections_eq, by rw [frontmatter_eq]; rfl, nofun,
      sections_eq ▸ bare frontmatter_eq, tiles.pairwise_first, tiles, sections_eq ▸ tiles.pairwise,
      ?_⟩
    intro number there
    rw [sections_eq, tiles.countP_hasLine there]
    simp
  | fronted opener body closer frontmatter lines_eq _ frontmatter_eq sections_eq =>
    have whole : (Source.ofString text).lines =
        (opener :: (body ++ closer :: preamble)) ++ blocks.flatMap Block.lines := by
      rw [lines_eq]
      simp
    have closing : (Source.ofString text).lines =
        (opener :: body) ++ closer :: (preamble ++ blocks.flatMap Block.lines) := lines_eq
    rw [sections_eq] at behind
    refine ⟨some (frontmatterSection body closer.number), _, blocks.map Block.part,
      isTiled_fronted sections_eq (by rw [frontmatter_eq]; rfl)
        (isFront_frontmatterSection lines_eq) ?_ behind (Block.tiles whole complete)⟩
    change closer.number < _
    rw [Source.number_eq_of_split closing]
    simp only [List.length_cons, List.length_append]
    omega

/-- A text with a frontmatter, a preamble, a heading inside code and a blank line at the end of a
section. -/
theorem sections_tile_text_with_code :
    ∃ document, ofText "---\n\n---\nnote\n## Index\n~~~\n## x\n~~~\n\n## Modules" =
        .ok (document, none) ∧
      document.sections.map (fun part => (part.span.first, part.span.last)) =
        [(1, 3), (5, 8), (10, 10)] ∧
      ∃ front start parts, document.IsTiled
        (Source.ofString "---\n\n---\nnote\n## Index\n~~~\n## x\n~~~\n\n## Modules")
        front start parts :=
  ⟨_, rfl, by decide +kernel, sections_tile_text rfl⟩

end Document

end LlmTxt

/-
This file says what a report shows on the screen. Above the table stands its source with the
verdict, and in the table every diagnostic has a row of one line with its lines, its severity, its
code and its message. All of this holds if the source and the messages are texts that the screen
shows as they are and there is room for them. What is printed besides holds no markup but its own.
As JSON a report holds a surrogate if and only if one of its texts does.
-/

import LlmTxt.Proofs.Terminal.Screen
import LlmTxt.Report.Printing

namespace LlmTxt

open Terminal Text

/-! ### Simple texts -/

/-- A character that has no meaning for markup, and none for the layout of a line but that it may
be white space, and that stands for no surrogate. -/
def isOrdinary (character : Char) : Bool :=
  character != '[' && character != ':' && character != '\t' && !isLineBreak character &&
    !Markup.isDropped character && !isStandIn character

/-- An ordinary character that is no white space. -/
def isSimple (character : Char) : Bool :=
  isOrdinary character && !isBlank character

namespace Terminal

theorem replace_of_notMem {text : List Char} (noColon : ':' ∉ text) :
    Shortcode.replace text = text := by
  unfold Shortcode.replace
  induction text with
  | nil => rfl
  | cons first rest inductionHypothesis =>
    rw [List.mem_cons, not_or] at noColon
    rw [Shortcode.replaceFrom, if_neg (Ne.symm noColon.1), inductionHypothesis noColon.2]

theorem holdsNoTag_of_notMem {text : List Char} (noBracket : '[' ∉ text) :
    Markup.HoldsNoTag text := by
  rintro front rest rfl
  exact absurd (List.mem_append_right _ List.mem_cons_self) noBracket

/-- A text without brackets and colons is plain. -/
theorem isPlain_of_notMem {text : List Char} (noBracket : '[' ∉ text) (noColon : ':' ∉ text) :
    Markup.IsPlain text where
  noTag := holdsNoTag_of_notMem noBracket
  noCode := replace_of_notMem noColon

theorem IsUnchanged.isLine {text : List Char} (unchanged : IsUnchanged text)
    (ends : ∀ last ∈ text.getLast?, isBlank last = false) : IsLine text :=
  ⟨unchanged.noTab, unchanged.noBreak, ends⟩

/-- The screen shows a text that markup leaves as it is if none of its characters has a meaning for
the layout of a line or is a surrogate. -/
theorem IsPlain.isUnchanged {text : List Char} (plain : Markup.IsPlain text)
    (laid : (text.all fun character => character != '\t' && !isLineBreak character &&
      !Markup.isDropped character && !isStandIn character) = true) : IsUnchanged text := by
  have each (character : Char) (member : character ∈ text) : character ≠ '\t' ∧
      isLineBreak character = false ∧ Markup.isDropped character = false ∧
      isStandIn character = false := by
    simpa [and_assoc] using List.all_eq_true.mp laid character member
  refine ⟨plain, ?_, ?_, ?_, ?_⟩
  · exact fun member => (each _ member).1 rfl
  · exact fun character member => (each _ member).2.1
  · exact fun character member => (each _ member).2.2.1
  · exact fun character member => (each _ member).2.2.2

/-- The screen shows a text of ordinary characters as it is. -/
theorem isUnchanged_of_isOrdinary {text : List Char} (ordinary : text.all isOrdinary = true) :
    IsUnchanged text := by
  have each (character : Char) (member : character ∈ text) : character ≠ '[' ∧ character ≠ ':' ∧
      character ≠ '\t' ∧ isLineBreak character = false ∧ Markup.isDropped character = false ∧
      isStandIn character = false := by
    simpa [isOrdinary, and_assoc] using List.all_eq_true.mp ordinary character member
  refine IsPlain.isUnchanged (isPlain_of_notMem ?_ ?_) ?_
  · exact fun member => (each _ member).1 rfl
  · exact fun member => (each _ member).2.1 rfl
  · refine List.all_eq_true.mpr fun character member => ?_
    simp [each character member]

theorem isBlank_getLast?_of_all {text : List Char}
    (ends : (text.getLast?.all fun last => !isBlank last) = true) :
    ∀ last ∈ text.getLast?, isBlank last = false := by
  intro last member
  simpa using (Option.all_eq_true _ _).mp ends last member

/-- The screen shows a text of simple characters as it is, to its end. -/
theorem isUnchanged_of_isSimple {text : List Char} (simple : text.all isSimple = true) :
    IsUnchanged text ∧ ∀ last ∈ text.getLast?, isBlank last = false := by
  have each (character : Char) (member : character ∈ text) :
      isOrdinary character = true ∧ isBlank character = false := by
    simpa [isSimple] using List.all_eq_true.mp simple character member
  refine ⟨isUnchanged_of_isOrdinary (List.all_eq_true.mpr fun character member => ?_), ?_⟩
  · exact (each character member).1
  · exact fun last member => (each last (List.mem_of_getLast? member)).2

end Terminal

theorem isSimple_of_isDigit {character : Char} (digit : character.isDigit = true) :
    isSimple character = true := by
  have all : (List.range' 48 10).all (fun point => isSimple (Char.ofNat point)) = true := by
    decide
  have member : character.toNat ∈ List.range' 48 10 := by
    simp only [Char.isDigit, Bool.and_eq_true, decide_eq_true_eq, UInt32.le_iff_toNat_le] at digit
    exact List.mem_range'_1.mpr ⟨digit.1, Nat.lt_succ_of_le digit.2⟩
  have own := List.all_eq_true.mp all _ member
  rwa [Char.ofNat_toNat] at own

theorem isSimple_toString (count : Nat) : (toString count).toList.all isSimple = true := by
  refine List.all_eq_true.mpr fun character member => ?_
  rw [Nat.toString_eq_ofList_toDigits, String.toList_ofList] at member
  exact isSimple_of_isDigit (Nat.isDigit_of_mem_toDigits (by decide) (by decide) member)

theorem Span.isSimple_text (span : Span) : span.text.toList.all isSimple = true := by
  have dash : "-".toList.all isSimple = true := by decide
  unfold text
  split
  · exact isSimple_toString span.first
  · rw [String.toList_append, String.toList_append, List.all_append, List.all_append,
      isSimple_toString, dash, isSimple_toString]
    rfl

theorem Severity.isSimple_name (severity : Severity) :
    severity.name.toList.all isSimple = true := by
  cases severity <;> decide

theorem Code.isSimple_name (code : Code) : code.name.toList.all isSimple = true := by
  cases code <;> decide

/-! ### Rows -/

namespace Diagnostic

/-- The texts of a diagnostic in the table of its report: its lines, its severity, its code and its
message. -/
def shownCells (diagnostic : Diagnostic) : List (List Char) :=
  [diagnostic.span.text.toList, diagnostic.severity.name.toList, diagnostic.code.toList,
    diagnostic.message.toList]

end Diagnostic

theorem Severity.shows_shown (severity : Severity) :
    Markup.Shows severity.shown.toList severity.name.toList := by
  have colour : severity.colour ∈ ["bold", "red", "yellow", "cyan", "green"] := by
    cases severity <;> decide
  have empty : Markup.IsPlain [] := isPlain_of_notMem nofun nofun
  obtain ⟨simple, -⟩ := isUnchanged_of_isSimple severity.isSimple_name
  have ends : severity.name.toList.getLast? ≠ some '\\' := by
    cases severity <;> decide
  have styled := Markup.shows_styled (Markup.isStyle_of_mem colour) empty nofun simple.plain ends
    empty.shows
  simpa [shown] using styled

namespace Report

/-! ### The line above the table -/

/-- The wording of a verdict. -/
def verdictText (report : Report) : String :=
  if report.fatal then "💥 fatal parse error"
  else if report.ok then "✅ passed"
  else "❌ failed"

/-- The line that names the source of a report and tells the verdict. -/
def headline (report : Report) : List Char :=
  (report.source.getD "").toList ++ (' ' :: ' ' :: report.verdictText.toList)

/-- A verdict is its wording in a colour. -/
theorem exists_verdict_eq (report : Report) :
    ∃ colour ∈ ["bold", "red", "yellow", "cyan", "green"],
      report.verdict.toList = '[' :: String.toList colour ++ ']' :: (report.verdictText.toList ++
        ('[' :: ('/' :: colour.toList) ++ ']' :: [])) := by
  unfold verdict verdictText
  split_ifs
  · exact ⟨"red", by decide, by decide⟩
  · exact ⟨"green", by decide, by decide⟩
  · exact ⟨"red", by decide, by decide⟩

/-- The wording of a verdict is a line that the screen shows as it is. -/
theorem isUnchanged_verdictText (report : Report) : IsUnchanged report.verdictText.toList ∧
    report.verdictText.toList ≠ [] ∧
    (∀ last ∈ report.verdictText.toList.getLast?, isBlank last = false) ∧
    report.verdictText.toList.getLast? ≠ some '\\' := by
  unfold verdictText
  split_ifs
  all_goals
    refine ⟨isUnchanged_of_isOrdinary ?_, ?_, isBlank_getLast?_of_all ?_, ?_⟩
    all_goals decide

theorem shows_headline {report : Report} (source : Markup.IsPlain (report.source.getD "").toList)
    (ends : (report.source.getD "").toList.getLast? ≠ some '\\') :
    Markup.Shows
      ("\n[bold]" ++ report.source.getD "" ++ "[/bold]  " ++ report.verdict).toList
      ('\n' :: report.headline) := by
  obtain ⟨colour, known, verdict⟩ := report.exists_verdict_eq
  obtain ⟨plainVerdict, -, -, verdictEnds⟩ := report.isUnchanged_verdictText
  have feed : Markup.IsPlain ['\n'] := isPlain_of_notMem (by decide) (by decide)
  have spaces : Markup.IsPlain [' ', ' '] := isPlain_of_notMem (by decide) (by decide)
  have nothing : Markup.IsPlain [] := isPlain_of_notMem nofun nofun
  have bold : Markup.IsStyle "bold".toList := Markup.isStyle_of_mem (by decide)
  have behind := Markup.shows_styled (Markup.isStyle_of_mem known) spaces (by decide)
    plainVerdict.plain verdictEnds nothing.shows
  rw [← verdict] at behind
  have whole := Markup.shows_styled bold feed (by decide) source ends behind
  simpa [headline] using whole

theorem isLine_headline {report : Report} (source : IsUnchanged (report.source.getD "").toList) :
    IsLine report.headline ∧
      (∀ character ∈ report.headline, Markup.isDropped character = false) ∧
      IsWhole report.headline := by
  obtain ⟨unchanged, filled, ends, -⟩ := report.isUnchanged_verdictText
  have each (holds : Char → Prop) (inSource : ∀ character ∈ (report.source.getD "").toList,
      holds character) (space : holds ' ')
      (inVerdict : ∀ character ∈ report.verdictText.toList, holds character) :
      ∀ character ∈ report.headline, holds character := by
    intro character member
    simp only [headline, List.mem_append, List.mem_cons] at member
    rcases member with first | rfl | rfl | last
    · exact inSource character first
    · exact space
    · exact space
    · exact inVerdict character last
  refine ⟨⟨fun tab => each (· ≠ '\t') ?_ (by decide) ?_ '\t' tab rfl, ?_, ?_⟩, ?_, ?_⟩
  · exact fun character member same => source.noTab (same ▸ member)
  · exact fun character member same => unchanged.noTab (same ▸ member)
  · exact each (isLineBreak · = false) source.noBreak (by decide) unchanged.noBreak
  · obtain ⟨first, rest, verdict⟩ := List.exists_cons_of_ne_nil filled
    rw [verdict] at ends
    simpa [headline, verdict, List.getLast?_cons_cons] using ends
  · exact each (Markup.isDropped · = false) source.kept (by decide) unchanged.kept
  · exact each (isStandIn · = false) source.whole (by decide) unchanged.whole

/-! ### The table -/

/-- The table of a report as it is shown. -/
def table (report : Report) : Table :=
  ⟨[⟨"Line", .right⟩, ⟨"Severity", .left⟩, ⟨"Code", .left⟩], ⟨"Message", .left⟩,
    report.diagnostics.map Diagnostic.shownCells⟩

/-- Whether a console can show what a report says as it is: the source and the messages are texts
that stay as they are, and there is room for them. -/
structure IsPrintable (report : Report) (console : Console) : Prop where
  source : IsUnchanged (report.source.getD "").toList
  sourceEnds : (report.source.getD "").toList.getLast? ≠ some '\\'
  sourceFits : places report.headline ≤ console.width
  messages : ∀ diagnostic ∈ report.diagnostics, IsUnchanged diagnostic.message.toList ∧
    ∀ last ∈ diagnostic.message.toList.getLast?, isBlank last = false
  messagesFit : report.table.FitsIn console.width

/-- Whether lines show a report: an empty line, the source with the verdict, and, if there are
diagnostics, a table with one line for each of them, in their order. -/
def IsShownBy (report : Report) (lines : List (List Char)) : Prop :=
  if report.diagnostics = [] then lines = [[], report.headline]
  else
    ∃ top titles below rows bottom,
      lines = [] :: report.headline :: top :: titles :: below :: rows ++ [bottom] ∧
      List.Forall₂ (fun diagnostic => Table.IsRow '│' diagnostic.shownCells) report.diagnostics rows

/-- A message whose markup is broken breaks what is printed of its report on a console with places
for its cells. -/
theorem exists_broken_printout {console : Console} (room : 8 ≤ console.width) {report : Report}
    {diagnostic : Diagnostic} (member : diagnostic ∈ report.diagnostics) {failure : PrintFailure}
    (broken : Markup.read console diagnostic.message.toList = .error failure) :
    ∃ other, .error other ∈ report.printouts console := by
  have row : diagnostic.cells ∈ report.diagnostics.map Diagnostic.cells :=
    List.mem_map_of_mem member
  have cell : diagnostic.message ∈ diagnostic.cells := by simp [Diagnostic.cells]
  have filled : ¬report.diagnostics.isEmpty = true := by
    simpa using List.ne_nil_of_mem member
  obtain ⟨other, table⟩ : ∃ other, printTable console
      [⟨"Line", .right⟩, ⟨"Severity", .left⟩, ⟨"Code", .left⟩] ⟨"Message", .left⟩
      (report.diagnostics.map Diagnostic.cells) = .error other :=
    exists_printTable_eq_error (by simpa using room) row cell broken
  refine ⟨other, ?_⟩
  unfold printouts
  rw [if_neg filled, ← table]
  exact List.mem_cons_of_mem _ List.mem_cons_self

variable {console : Console} {report : Report} (printable : report.IsPrintable console)
  (known : ∀ diagnostic ∈ report.diagnostics, ∃ code : Code, diagnostic.code = code.name)

include printable known

/-- The screen shows the cells of all diagnostics as they are. -/
theorem isUnchanged_of_mem_shownCells {diagnostic : Diagnostic}
    (member : diagnostic ∈ report.diagnostics) {cell : List Char}
    (inCells : cell ∈ diagnostic.shownCells) :
    IsUnchanged cell ∧ ∀ last ∈ cell.getLast?, isBlank last = false := by
  simp only [Diagnostic.shownCells, List.mem_cons, List.not_mem_nil, or_false] at inCells
  rcases inCells with rfl | rfl | rfl | rfl
  · exact isUnchanged_of_isSimple diagnostic.span.isSimple_text
  · exact isUnchanged_of_isSimple diagnostic.severity.isSimple_name
  · obtain ⟨code, own⟩ := known diagnostic member
    rw [own]
    exact isUnchanged_of_isSimple code.isSimple_name
  · exact printable.messages diagnostic member

/-- The markup of each cell leaves what is shown of it. -/
theorem forall₂_cells : List.Forall₂ (List.Forall₂ ShowsCell)
    (report.diagnostics.map Diagnostic.cells) (report.diagnostics.map Diagnostic.shownCells) := by
  rw [List.forall₂_map_left_iff, List.forall₂_map_right_iff, List.forall₂_same]
  intro diagnostic member
  have own (text : String) (inCells : text.toList ∈ diagnostic.shownCells) :
      ShowsCell text text.toList := by
    obtain ⟨unchanged, -⟩ := isUnchanged_of_mem_shownCells printable known member inCells
    exact ⟨unchanged.plain.shows, unchanged.kept⟩
  have severity := own diagnostic.severity.name (by simp [Diagnostic.shownCells])
  refine .cons (own _ ?_) (.cons ⟨diagnostic.severity.shows_shown, severity.2⟩
    (.cons (own _ ?_) (.cons (own _ ?_) .nil)))
  all_goals simp [Diagnostic.shownCells]

/-- The screen shows the titles and the cells of the table as they are. -/
theorem isUnchanged_of_mem_table : ∀ row ∈ report.table.titles :: report.table.rows,
    ∀ cell ∈ row, IsUnchanged cell ∧ ∀ last ∈ cell.getLast?, isBlank last = false := by
  have simple : ∀ title ∈ report.table.titles, title.all isSimple = true := by
    show ∀ title ∈ ["Line".toList, "Severity".toList, "Code".toList, "Message".toList], _
    decide
  refine List.forall_mem_cons.mpr ⟨fun title inTitles => ?_, fun row inRows => ?_⟩
  · exact isUnchanged_of_isSimple (simple title inTitles)
  · obtain ⟨diagnostic, member, rfl⟩ := List.mem_map.mp inRows
    exact fun cell inCells => isUnchanged_of_mem_shownCells printable known member inCells

/-- Every row of the table has one line. -/
theorem liesFlat_table : report.table.LiesFlat console.width where
  fits := printable.messagesFit
  named := by
    show ∀ title ∈ ["Line".toList, "Severity".toList, "Code".toList, "Message".toList], _
    decide
  full := by
    refine List.forall_mem_cons.mpr ⟨rfl, fun row inRows => ?_⟩
    obtain ⟨diagnostic, -, rfl⟩ := List.mem_map.mp inRows
    rfl
  lines := by
    intro row inTable cell inRow
    obtain ⟨unchanged, ends⟩ := isUnchanged_of_mem_table printable known row inTable cell inRow
    exact unchanged.isLine ends

/-- A report that a console can show is shown. -/
theorem exists_prints (room : 0 < console.width) : ∃ lines, report.IsShownBy lines ∧
    Prints (report.printouts console) lines := by
  obtain ⟨headline, kept, whole⟩ := isLine_headline printable.source
  have above := printText_of_shows room
    (shows_headline printable.source.plain printable.sourceEnds) headline kept whole
    printable.sourceFits
  unfold printouts IsShownBy
  by_cases none : report.diagnostics = []
  · rw [none]
    exact ⟨_, rfl, Prints.nil.cons above⟩
  · rw [if_neg (by simpa using none)]
    have flat := liesFlat_table printable known
    obtain ⟨titles, rows, -, shown, lines⟩ := Table.exists_lines flat
    have drawn : printTable console [⟨"Line", .right⟩, ⟨"Severity", .left⟩, ⟨"Code", .left⟩]
        ⟨"Message", .left⟩ (report.diagnostics.map Diagnostic.cells) =
          .ok (ended (report.table.lines console.width)) :=
      printTable_of_shows (forall₂_cells printable known) flat fun row inTable cell inRow =>
        (isUnchanged_of_mem_table printable known row inTable cell inRow).1.whole
    rw [lines] at drawn
    refine ⟨_, ?_, (Prints.nil.cons drawn).cons above⟩
    rw [if_neg none]
    refine ⟨_, titles, _, rows, _, by rw [List.append_nil]; rfl, ?_⟩
    rwa [table, List.forall₂_map_left_iff] at shown

end Report

/-! ### For a program -/

namespace JsonValue

theorem isWhole_hexDigits (width value : Nat) : IsWhole (hexDigits width value) := by
  have digits : ∀ digit < 16, isStandIn (hexDigit digit) = false := by decide
  induction width generalizing value with
  | zero => exact nofun
  | succ width inductionHypothesis =>
    have last := digits (value % 16) (Nat.mod_lt _ (by decide))
    exact isWhole_append.mpr ⟨inductionHypothesis _, List.forall_mem_singleton.mpr last⟩

theorem isWhole_lineStart (depth : Nat) : IsWhole (lineStart depth) :=
  isWhole_cons.mpr ⟨by decide, isWhole_replicate (by decide) _⟩

variable {console : Console}

/-- An escape says no less than the character that it stands for, and no more. -/
theorem encodes_escape_iff {character : Char} :
    console.Encodes (escape character) ↔ console.meansSurrogate character = false := by
  have whole (text : List Char) (plain : isStandIn character = false) (own : IsWhole text) :
      console.Encodes text ↔ console.meansSurrogate character = false :=
    iff_of_true (encodes_of_isWhole own) (by rw [Console.meansSurrogate, plain]; rfl)
  unfold escape
  split
  case h_8 =>
    split_ifs with control
    · refine whole _ ?_ ?_
      · have small : ¬0xD800 + standInDistance ≤ character.toNat := by
          unfold standInDistance
          omega
        simp [isStandIn, small]
      · exact isWhole_cons.mpr ⟨by decide, isWhole_cons.mpr ⟨by decide, isWhole_hexDigits _ _⟩⟩
    · exact List.forall_mem_singleton
  all_goals exact whole _ (by decide) (by decide)

theorem encodes_quote_iff {content : String} :
    console.Encodes (quote content) ↔ console.Encodes content.toList := by
  have mark : console.Encodes ['"'] := encodes_of_isWhole (by decide)
  rw [quote, encodes_append, encodes_cons, and_iff_left mark,
    and_iff_right (mark _ (List.mem_singleton_self _)), encodes_flatMap]
  simp only [encodes_escape_iff]
  rfl

theorem encodes_enclose_iff {opening closing : Char} (plain : IsWhole [opening, closing])
    {depth : Nat} {parts : List (List Char)} :
    console.Encodes (enclose opening closing depth parts) ↔
      ∀ part ∈ parts, console.Encodes part := by
  have marks : console.Encodes [opening, closing] := encodes_of_isWhole plain
  have start (level : Nat) : console.Encodes (lineStart level) :=
    encodes_of_isWhole (isWhole_lineStart level)
  have comma : console.Encodes [','] := encodes_of_isWhole (by decide)
  obtain ⟨own, last⟩ := encodes_cons.mp marks
  unfold enclose
  split_ifs with none
  · rw [List.isEmpty_iff.mp none]
    exact iff_of_true marks nofun
  · rw [encodes_append, encodes_append, encodes_cons, and_iff_right own, and_iff_left last,
      and_iff_left (start depth), encodes_intercalate comma, List.forall_mem_map]
    simp only [encodes_append, start, true_and]

section Values

variable {depth : Nat}

theorem encodes_write_count (value : Nat) : console.Encodes ((count value).write depth) := by
  rw [write]
  exact encodes_of_isWhole (isUnchanged_of_isSimple (isSimple_toString value)).1.whole

theorem encodes_write_truth (value : Bool) : console.Encodes ((truth value).write depth) := by
  cases value
  all_goals
    rw [write]
    exact encodes_of_isWhole (by decide)

theorem encodes_write_null : console.Encodes (null.write depth) := by
  rw [write]
  exact encodes_of_isWhole (by decide)

theorem encodes_write_ofText? {text? : Option String} :
    console.Encodes ((ofText? text?).write depth) ↔
      ∀ text ∈ text?, console.Encodes text.toList := by
  cases text? with
  | none => exact iff_of_true encodes_write_null nofun
  | some text =>
    rw [ofText?, write, encodes_quote_iff]
    simp

theorem encodes_write_list {items : List JsonValue} :
    console.Encodes ((list items).write depth) ↔
      ∀ item ∈ items, console.Encodes (item.write (depth + 1)) := by
  rw [write, encodes_enclose_iff (by decide)]
  induction items with
  | nil => exact iff_of_true nofun nofun
  | cons item rest inductionHypothesis =>
    rw [writeItems, List.forall_mem_cons, List.forall_mem_cons, inductionHypothesis]

theorem encodes_write_object {fields : List (String × JsonValue)} :
    console.Encodes ((object fields).write depth) ↔ ∀ field ∈ fields,
      console.Encodes field.1.toList ∧ console.Encodes (field.2.write (depth + 1)) := by
  have separator : console.Encodes [':', ' '] := encodes_of_isWhole (by decide)
  rw [write, encodes_enclose_iff (by decide)]
  induction fields with
  | nil => exact iff_of_true nofun nofun
  | cons field rest inductionHypothesis =>
    rw [writeFields, List.forall_mem_cons, List.forall_mem_cons]
    refine and_congr ?_ inductionHypothesis
    rw [encodes_append, encodes_append, and_iff_left separator, encodes_quote_iff]

end Values

end JsonValue

open JsonValue

section Encoding

variable (console : Console)

/-- Names without a stand-in are encoded on every console. -/
theorem encodes_names {names : List String}
    (whole : (names.all fun name => IsWhole name.toList) = true) :
    ∀ name ∈ names, console.Encodes name.toList :=
  fun name member => encodes_of_isWhole (of_decide_eq_true (List.all_eq_true.mp whole name member))

theorem Span.encodes_json (span : Span) (depth : Nat) :
    console.Encodes (span.json.write depth) := by
  have names := encodes_names console (by decide :
    (["start", "end", "offset"].all fun name => IsWhole name.toList) = true)
  simp only [List.forall_mem_cons, List.not_mem_nil, false_imp_iff, implies_true, and_true] at names
  refine encodes_write_object.mpr ?_
  simp only [List.forall_mem_cons, List.not_mem_nil, false_imp_iff, implies_true, and_true]
  refine ⟨⟨names.1, encodes_write_count _⟩, ⟨names.2.1, encodes_write_count _⟩, names.2.2, ?_⟩
  cases span.offset with
  | none => exact encodes_write_null
  | some offset => exact encodes_write_count _

/-- The texts of a diagnostic that a document has a say in, and its code. -/
def Diagnostic.texts (diagnostic : Diagnostic) : List String :=
  [diagnostic.code, diagnostic.message] ++ diagnostic.symbol.toList

theorem Diagnostic.encodes_json_iff (diagnostic : Diagnostic) (depth : Nat) :
    console.Encodes (diagnostic.json.write depth) ↔
      ∀ text ∈ diagnostic.texts, console.Encodes text.toList := by
  have kind : ∀ text ∈ diagnostic.kind?.map SectionKind.name, console.Encodes text.toList := by
    intro text member
    obtain ⟨kind, -, rfl⟩ := Option.map_eq_some_iff.mp member
    refine encodes_of_isWhole ?_
    cases kind <;> decide
  have severity : console.Encodes (quote diagnostic.severity.name) := by
    refine encodes_of_isWhole ?_
    cases diagnostic.severity <;> decide
  have span := diagnostic.span.encodes_json console (depth + 1)
  have names := encodes_names console (by decide :
    (["severity", "code", "message", "span", "section", "symbol"].all fun name =>
      IsWhole name.toList) = true)
  simp only [List.forall_mem_cons, List.not_mem_nil, false_imp_iff, implies_true, and_true] at names
  rw [Diagnostic.json, encodes_write_object]
  simp only [List.forall_mem_cons, List.not_mem_nil, false_imp_iff, implies_true, and_true,
    names, true_and, encodes_write_ofText?, iff_true_intro kind, span, texts,
    List.forall_mem_append, Option.mem_toList, and_assoc]
  simp only [write, severity, encodes_quote_iff, true_and, Option.mem_def]

namespace Report

/-- The texts of a report that a document has a say in, and the codes of its diagnostics. -/
def texts (report : Report) : List String :=
  report.source.toList ++ report.diagnostics.flatMap Diagnostic.texts

theorem encodes_json_iff (report : Report) (depth : Nat) :
    console.Encodes (report.json.write depth) ↔
      ∀ text ∈ report.texts, console.Encodes text.toList := by
  have names := encodes_names console (by decide :
    (["source", "diagnostics", "ok", "fatal"].all fun name => IsWhole name.toList) = true)
  simp only [List.forall_mem_cons, List.not_mem_nil, false_imp_iff, implies_true, and_true] at names
  rw [Report.json, encodes_write_object]
  simp only [List.forall_mem_cons, List.not_mem_nil, false_imp_iff, implies_true, and_true,
    names, true_and, encodes_write_ofText?, encodes_write_list, encodes_write_truth,
    List.forall_mem_map, Diagnostic.encodes_json_iff, texts, List.forall_mem_append,
    Option.mem_toList, List.forall_mem_flatMap, Option.mem_def]

/-- Reports are encoded as JSON if and only if none of their texts holds a surrogate. -/
theorem encodes_jsonOfAll_iff (reports : List Report) :
    console.Encodes ((jsonOfAll reports).write 0) ↔
      ∀ report ∈ reports, ∀ text ∈ report.texts, console.Encodes text.toList := by
  have names := encodes_names console (by decide :
    (["ok", "reports"].all fun name => IsWhole name.toList) = true)
  simp only [List.forall_mem_cons, List.not_mem_nil, false_imp_iff, implies_true, and_true] at names
  rw [jsonOfAll, encodes_write_object]
  simp only [List.forall_mem_cons, List.not_mem_nil, false_imp_iff, implies_true, and_true,
    names, true_and, encodes_write_list, encodes_write_truth, List.forall_mem_map,
    encodes_json_iff]

end Report

end Encoding

end LlmTxt

/-
This file says what texts and tables show on the screen once their markup is read. A text that
markup leaves as it is, and that is one line of the screen, is shown as that line, and a table of
such texts as rows of one line each. What is printed one after the other is shown one after the
other, if no markup is broken.
-/

import LlmTxt.Proofs.Steps
import LlmTxt.Proofs.Terminal.Markup
import LlmTxt.Proofs.Terminal.Table

namespace LlmTxt.Terminal

open Text

/-! ### One after the other -/

/-- What printouts show as lines. -/
def Prints (printouts : List Printout) (lines : List (List Char)) : Prop :=
  showAll printouts = .ok (ended lines)

theorem ended_append (front back : List (List Char)) :
    ended (front ++ back) = ended front ++ ended back :=
  List.flatMap_append

theorem showAll_nil : showAll [] = .ok [] :=
  rfl

theorem showAll_cons (printout : Printout) (rest : List Printout) :
    showAll (printout :: rest) =
      printout.bind fun text => (showAll rest).map fun behind => text ++ behind := by
  unfold showAll
  rw [List.mapM_cons]
  cases printout with
  | error failure => rfl
  | ok text => cases rest.mapM id <;> rfl

theorem Prints.nil : Prints [] [] :=
  showAll_nil

theorem Prints.cons {printout : Printout} {lines : List (List Char)}
    (own : printout = .ok (ended lines)) {rest : List Printout} {others : List (List Char)}
    (behind : Prints rest others) : Prints (printout :: rest) (lines ++ others) := by
  unfold Prints at behind ⊢
  rw [showAll_cons, own, behind, ended_append]
  rfl

theorem showAll_append (front back : List Printout) :
    showAll (front ++ back) =
      (showAll front).bind fun text => (showAll back).map fun behind => text ++ behind := by
  induction front with
  | nil =>
    rw [List.nil_append, showAll_nil]
    cases showAll back <;> rfl
  | cons printout rest inductionHypothesis =>
    rw [List.cons_append, showAll_cons, showAll_cons, inductionHypothesis]
    cases printout with
    | error failure => rfl
    | ok text =>
      cases showAll rest with
      | error failure => rfl
      | ok others =>
        cases showAll back with
        | error failure => rfl
        | ok behind => exact congrArg Except.ok (List.append_assoc text others behind).symm

theorem Prints.append {front back : List Printout} {lines others : List (List Char)}
    (before : Prints front lines) (behind : Prints back others) :
    Prints (front ++ back) (lines ++ others) := by
  unfold Prints at before behind ⊢
  rw [showAll_append, before, behind, ended_append]
  rfl

/-- What breaks off all printouts breaks one of them. -/
theorem mem_of_showAll_eq_error {printouts : List Printout} {failure : PrintFailure}
    (broken : showAll printouts = .error failure) : .error failure ∈ printouts := by
  induction printouts with
  | nil => cases broken
  | cons printout rest inductionHypothesis =>
    rw [showAll_cons] at broken
    cases printout with
    | error other =>
      cases broken
      exact List.mem_cons_self
    | ok text =>
      cases behind : showAll rest with
      | error other =>
        rw [behind] at broken
        cases broken
        exact List.mem_cons_of_mem _ (inductionHypothesis behind)
      | ok others =>
        rw [behind] at broken
        cases broken

/-- One broken printout breaks off all. -/
theorem exists_showAll_eq_error {printouts : List Printout} {failure : PrintFailure}
    (broken : .error failure ∈ printouts) : ∃ other, showAll printouts = .error other := by
  obtain ⟨front, back, rfl⟩ := List.append_of_mem broken
  rw [showAll_append, showAll_cons]
  cases showAll front with
  | error other => exact ⟨other, rfl⟩
  | ok text => exact ⟨failure, rfl⟩

/-! ### What is written -/

section Written

variable {console : Console} {text : List Char}

/-- Whether no character of a text means a surrogate on a console. -/
def Console.Encodes (console : Console) (text : List Char) : Prop :=
  ∀ character ∈ text, console.meansSurrogate character = false

theorem encodes_of_isWhole (whole : IsWhole text) : console.Encodes text := by
  intro character member
  rw [Console.meansSurrogate, whole character member]
  rfl

theorem encodes_cons {first : Char} {rest : List Char} :
    console.Encodes (first :: rest) ↔
      console.meansSurrogate first = false ∧ console.Encodes rest :=
  List.forall_mem_cons

theorem encodes_append {front back : List Char} :
    console.Encodes (front ++ back) ↔ console.Encodes front ∧ console.Encodes back :=
  List.forall_mem_append

theorem encodes_flatMap {Item : Type} {items : List Item} {texts : Item → List Char} :
    console.Encodes (items.flatMap texts) ↔ ∀ item ∈ items, console.Encodes (texts item) :=
  List.forall_mem_flatMap

theorem encodes_intercalate {separator : List Char} (between : console.Encodes separator)
    {pieces : List (List Char)} :
    console.Encodes (separator.intercalate pieces) ↔ ∀ piece ∈ pieces, console.Encodes piece :=
  forall_mem_intercalate_iff between

theorem written_of_encodes (room : 0 < console.width) (encodes : console.Encodes text) :
    console.written text = .ok text := by
  rw [Console.written, if_neg (Nat.ne_of_gt room), encodingFailure?_eq_none_iff.mpr encodes]

theorem written_of_isWhole (room : 0 < console.width) (whole : IsWhole text) :
    console.written text = .ok text :=
  written_of_encodes room (encodes_of_isWhole whole)

/-- A console writes every text but one with a surrogate, for which it has to have a place. -/
theorem exists_written_eq_error_iff :
    (∃ failure, console.written text = .error failure) ↔
      0 < console.width ∧ ¬console.Encodes text := by
  rw [Console.Encodes, ← encodingFailure?_eq_none_iff, Nat.pos_iff_ne_zero]
  unfold Console.written
  by_cases none : console.width = 0
  · rw [if_pos none]
    exact iff_of_false nofun fun both => both.1 none
  · rw [if_neg none, and_iff_right none]
    cases encodingFailure? console.meansSurrogate text with
    | none => exact iff_of_false nofun fun some => some rfl
    | some failure => exact iff_of_true ⟨_, rfl⟩ nofun

/-- A console without places writes nothing. -/
theorem written_of_width_eq_zero (none : console.width = 0) : console.written text = .ok [] :=
  if_pos none

theorem isWhole_ended {lines : List (List Char)} (whole : ∀ line ∈ lines, IsWhole line) :
    IsWhole (ended lines) :=
  isWhole_flatMap.mpr fun line member => isWhole_append.mpr ⟨whole line member, by decide⟩

end Written

/-! ### Texts -/

/-- Whether the screen shows a text as it is, if there is room for it: markup leaves the text as it
is, it is one line without tabs, and none of its characters is dropped or a surrogate. -/
structure IsUnchanged (text : List Char) : Prop where
  plain : Markup.IsPlain text
  noTab : '\t' ∉ text
  noBreak : ∀ character ∈ text, isLineBreak character = false
  kept : ∀ character ∈ text, Markup.isDropped character = false
  whole : IsWhole text

/-- A text that shows an empty line and a line is printed as these. -/
theorem printText_of_shows {console : Console} (room : 0 < console.width) {text : String}
    {line : List Char} (shows : Markup.Shows text.toList ('\n' :: line)) (isLine : IsLine line)
    (kept : ∀ character ∈ line, Markup.isDropped character = false) (whole : IsWhole line)
    (fits : places line ≤ console.width) : printText console text = .ok (ended [[], line]) := by
  obtain ⟨marked, read, same, simple⟩ :=
    shows.read (List.forall_mem_cons.mpr ⟨by decide, kept⟩) console
  have laid : layOut ⟨console.width, true, .fold, .none⟩ line = [line] := by
    rw [layOut_of_fits isLine fits]
    exact congrArg (fun shown => [shown]) (truncate_of_fits fits)
  have empty : layOut ⟨console.width, true, .fold, .none⟩ ('\n' :: line) =
      [] :: layOut ⟨console.width, true, .fold, .none⟩ line := by
    unfold layOut
    rw [Text.splitAt, if_pos rfl, List.flatMap_cons]
    rfl
  unfold printText
  rw [read]
  dsimp only [bind, Except.bind]
  rw [if_neg (Nat.ne_of_gt room), Markup.shown_of_simple simple, same]
  dsimp only
  rw [empty, laid]
  exact written_of_isWhole room (isWhole_ended (by simpa [IsWhole] using whole))

/-! ### Tables -/

/-- Whether a cell shows a text of which no control character is dropped. -/
def ShowsCell (cell : String) (plain : List Char) : Prop :=
  Markup.Shows cell.toList plain ∧ ∀ character ∈ plain, Markup.isDropped character = false

/-- The cells of a row are read as what they show. -/
theorem exists_read_row {row : List String} {plainRow : List (List Char)}
    (cells : List.Forall₂ ShowsCell row plainRow) (console : Console) :
    ∃ read, (row.mapM fun cell => Markup.read console cell.toList) = .ok read ∧
      read.map (·.plain) = plainRow ∧ ∀ cell ∈ read, ∀ tag ∈ cell.tags, tag.said = none := by
  obtain ⟨read, run, shows⟩ :=
    exists_mapM (cells.imp fun cell plain shown => shown.1.read shown.2 console)
  refine ⟨read, run, ?_, fun cell member => ?_⟩
  · rw [← List.forall₂_eq_eq_eq, List.forall₂_map_left_iff]
    exact shows.imp fun _ _ both => both.1
  · obtain ⟨plain, -, -, simple⟩ := exists_of_mem_left shows member
    exact simple

/-- Tags that say no more than a name do not keep the cells of a row from being shown. -/
theorem mapM_shown {row : List MarkedText} {widths : List Nat}
    (length : row.length ≤ widths.length)
    (simple : ∀ cell ∈ row, ∀ tag ∈ cell.tags, tag.said = none) (console : Console) :
    ((row.zip widths).mapM fun (cell, width) =>
      if width < 3 then pure cell.plain else cell.shown console (width - 2)) =
        .ok (row.map (·.plain)) := by
  have plains : (row.zip widths).map (fun entry => entry.1.plain) = row.map (·.plain) := by
    conv_rhs => rw [← List.map_fst_zip length, List.map_map]
    rfl
  rw [← plains]
  refine mapM_eq_ok_iff.mpr ?_
  rw [List.forall₂_map_right_iff, List.forall₂_same]
  rintro ⟨cell, width⟩ member
  dsimp only
  split_ifs
  · rfl
  · exact Markup.shown_of_simple (simple cell (List.of_mem_zip member).1) console _

/-- A table whose cells show some texts without surrogates is printed as the table of these, if that
lies flat. -/
theorem printTable_of_shows {console : Console} {fixed : List Column} {last : Column}
    {rows : List (List String)} {plainRows : List (List (List Char))}
    (each : List.Forall₂ (List.Forall₂ ShowsCell) rows plainRows)
    (flat : (⟨fixed, last, plainRows⟩ : Table).LiesFlat console.width)
    (whole : ∀ row ∈ (⟨fixed, last, plainRows⟩ : Table).titles :: plainRows, ∀ cell ∈ row,
      IsWhole cell) :
    printTable console fixed last rows =
      .ok (ended ((⟨fixed, last, plainRows⟩ : Table).lines console.width)) := by
  have wide := Table.length_add_four_le flat
  have columns : (⟨fixed, last, plainRows⟩ : Table).columns.length = fixed.length + 1 := by
    simp [Table.columns]
  have roomy : ¬console.width < fixed.length + 5 := by omega
  obtain ⟨read, run, shows⟩ := exists_mapM (each.imp fun _ _ cells => exists_read_row cells console)
  have plains : read.map (fun row => row.map (·.plain)) = plainRows := by
    rw [← List.forall₂_eq_eq_eq, List.forall₂_map_left_iff]
    exact shows.imp fun _ _ both => both.1
  have shown : (read.mapM fun row =>
      (row.zip (⟨fixed, last, plainRows⟩ : Table).naturalWidths).mapM fun (cell, width) =>
        if width < 3 then pure cell.plain else cell.shown console (width - 2)) =
          .ok plainRows := by
    rw [← plains]
    refine mapM_eq_ok_iff.mpr ?_
    rw [List.forall₂_map_right_iff, List.forall₂_same]
    intro row member
    obtain ⟨plainRow, inRows, same, simple⟩ := exists_of_mem_left shows member
    refine mapM_shown ?_ simple console
    have full := flat.full plainRow (List.mem_cons_of_mem _ inRows)
    rw [← List.length_map (·.plain), same, full, Table.length_naturalWidths]
    exact Nat.le_of_eq (by rw [plains])
  unfold printTable
  simp only [if_neg roomy]
  rw [run]
  dsimp only [bind, Except.bind]
  rw [plains, Table.widths_of_fitsIn flat.fits, shown]
  exact written_of_isWhole (by omega) (isWhole_ended (Table.isWhole_lines whole _))

/-- A cell whose markup is broken breaks a table on a console with places for its cells. -/
theorem exists_printTable_eq_error {console : Console} {fixed : List Column} {last : Column}
    (room : fixed.length + 5 ≤ console.width) {rows : List (List String)} {row : List String}
    (rowMember : row ∈ rows) {cell : String} (member : cell ∈ row) {failure : PrintFailure}
    (broken : Markup.read console cell.toList = .error failure) :
    ∃ other, printTable console fixed last rows = .error other := by
  unfold printTable
  simp only [if_neg (Nat.not_lt.mpr room)]
  cases run : rows.mapM fun row => row.mapM fun cell => Markup.read console cell.toList with
  | error other => exact ⟨other, rfl⟩
  | ok read =>
    obtain ⟨cells, -, rowRun⟩ := exists_mem_of_mapM run rowMember
    obtain ⟨found, -, cellRun⟩ := exists_mem_of_mapM rowRun member
    rw [broken] at cellRun
    cases cellRun

/-! ### Panels -/

theorem isWhole_framed {lines : List (List Char)} (whole : ∀ line ∈ lines, IsWhole line)
    (width : Nat) : ∀ line ∈ framed width lines, IsWhole line := by
  have edge (first last : Char) (plain : IsWhole [first, last]) :
      IsWhole (first :: List.replicate width '─' ++ [last]) := by
    obtain ⟨own, rest⟩ := isWhole_cons.mp plain
    exact isWhole_append.mpr ⟨isWhole_cons.mpr ⟨own, isWhole_replicate (by decide) _⟩, rest⟩
  have row {line : List Char} (own : IsWhole line) :
      IsWhole (['│', ' '] ++ padRight (width - 2) line ++ [' ', '│']) := by
    have padded := isWhole_append.mpr
      ⟨own, isWhole_replicate (show isStandIn ' ' = false by decide) (width - 2 - places line)⟩
    exact isWhole_append.mpr ⟨isWhole_append.mpr ⟨by decide, padded⟩, by decide⟩
  refine List.forall_mem_append.mpr ⟨List.forall_mem_cons.mpr ⟨edge _ _ (by decide), ?_⟩,
    List.forall_mem_singleton.mpr (edge _ _ (by decide))⟩
  refine List.forall_mem_map.mpr fun line member => row ?_
  split_ifs at member
  · cases member
  · obtain ⟨written, inLines, laid⟩ := List.mem_flatMap.mp member
    exact isWhole_layOut (whole written inLines) _ line laid

/-- A panel holds no surrogates but those of the lines in it. -/
theorem isWhole_panelLines {lines : List (List Char)} (whole : ∀ line ∈ lines, IsWhole line)
    (room : Nat) : ∀ line ∈ panelLines room lines, IsWhole line := by
  have drawn := isWhole_framed whole
  unfold panelLines
  dsimp only
  split_ifs
  · exact drawn _
  · refine List.forall_mem_map.mpr fun line member character inside => ?_
    exact drawn _ line member character (List.mem_of_mem_take inside)

theorem printPanel_of_isWhole {console : Console} (room : 0 < console.width) {lines : List String}
    (whole : ∀ line ∈ lines, IsWhole line.toList) :
    printPanel console lines =
      .ok (ended (panelLines console.width (lines.map String.toList))) :=
  written_of_isWhole room
    (isWhole_ended (isWhole_panelLines (List.forall_mem_map.mpr whole) _))

end LlmTxt.Terminal

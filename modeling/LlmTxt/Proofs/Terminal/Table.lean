/-
This file shows that a table with room for what its cells ask for shows every row on one line, with
the text of each cell as it is and spaces around it. The cells must be lines, and a cell is as wide
as the widest of its column. Nothing that is drawn around the texts is a surrogate.
-/

import LlmTxt.Proofs.Source.Joining
import LlmTxt.Proofs.Steps
import LlmTxt.Proofs.Terminal.Wrap
import LlmTxt.Terminal.Screen
import Mathlib.Data.List.Forall2
import Mathlib.Data.List.GetD

namespace LlmTxt.Terminal

open Text

/-! ### Widths -/

/-- A text without line breaks is as wide as its one line. -/
theorem widest_of_noBreak {text : List Char}
    (noBreak : ∀ character ∈ text, isLineBreak character = false) : widest text = places text := by
  by_cases empty : text = []
  · rw [empty]
    rfl
  · rw [widest, rawLines_of_unbroken noBreak empty]
    exact Nat.zero_max _

/-! ### The greatest of some numbers -/

theorem foldl_max_le_iff {numbers : List Nat} {start bound : Nat} :
    numbers.foldl max start ≤ bound ↔ start ≤ bound ∧ ∀ number ∈ numbers, number ≤ bound := by
  induction numbers generalizing start with
  | nil => simp
  | cons number rest inductionHypothesis =>
    rw [List.foldl_cons, inductionHypothesis, Nat.max_le, List.forall_mem_cons, and_assoc]

theorem le_foldl_max {numbers : List Nat} {number : Nat} (member : number ∈ numbers)
    (start : Nat) : number ≤ numbers.foldl max start :=
  (foldl_max_le_iff.mp (Nat.le_refl _)).2 number member

theorem foldl_max_of_le {numbers : List Nat} {start : Nat}
    (each : ∀ number ∈ numbers, number ≤ start) : numbers.foldl max start = start :=
  Nat.le_antisymm (foldl_max_le_iff.mpr ⟨Nat.le_refl _, each⟩)
    (foldl_max_le_iff.mp (Nat.le_refl _)).1

theorem add_le_foldr_add {numbers : List Nat} {number : Nat} (member : number ∈ numbers)
    (start : Nat) : number + start ≤ numbers.foldr (· + ·) start := by
  have least : ∀ others : List Nat, start ≤ others.foldr (· + ·) start := by
    intro others
    induction others with
    | nil => exact Nat.le_refl _
    | cons other rest inductionHypothesis => exact Nat.le_add_left_of_le inductionHypothesis
  induction numbers with
  | nil => cases member
  | cons other rest inductionHypothesis =>
    rw [List.foldr_cons]
    rcases List.mem_cons.mp member with rfl | later
    · exact Nat.add_le_add_left (least rest) number
    · exact Nat.le_add_left_of_le (inductionHypothesis later)

namespace Table

variable {table : Table}

/-- Whether a console has room for the widths that the cells of a table ask for, edges included. -/
def FitsIn (table : Table) (room : Nat) : Prop :=
  lineWidth table.naturalWidths ≤ room

theorem length_naturalWidths (table : Table) :
    table.naturalWidths.length = table.columns.length := by
  rw [naturalWidths, List.length_map, List.length_range]

theorem askedWidth_of_le {most natural : Nat} (spaces : 2 ≤ natural) (fits : natural ≤ most) :
    askedWidth most natural = natural := by
  unfold askedWidth
  split_ifs
  · omega
  · exact Nat.min_eq_left fits

theorem add_le_of_fitsIn {room : Nat} (fits : table.FitsIn room) {width : Nat}
    (member : width ∈ table.naturalWidths) : width + (table.columns.length + 1) ≤ room := by
  have counted := add_le_foldr_add member (table.naturalWidths.length + 1)
  rw [length_naturalWidths] at counted
  unfold FitsIn lineWidth at fits
  rw [length_naturalWidths] at fits
  exact counted.trans fits

/-- In a table that has room no column gives way. -/
theorem widths_of_fitsIn {room : Nat} (fits : table.FitsIn room) :
    table.widths room = table.naturalWidths := by
  have asked : (table.naturalWidths.map fun natural =>
      max 1 (askedWidth (room - (table.columns.length + 1)) natural)) = table.naturalWidths := by
    refine (List.map_congr_left fun natural member => ?_).trans (List.map_id _)
    have spaces : 2 ≤ natural := by
      obtain ⟨index, -, rfl⟩ := List.mem_map.mp member
      exact Nat.le_add_left _ _
    have counted := add_le_of_fitsIn fits member
    rw [askedWidth_of_le spaces (by omega)]
    exact Nat.max_eq_right (by omega)
  unfold widths
  dsimp only
  rw [asked, if_pos (Nat.sub_eq_zero_of_le fits)]

/-- A column is wide enough for its cells. -/
theorem places_add_two_le {row : List (List Char)} (member : row ∈ table.titles :: table.rows)
    {index : Nat} (inside : index < row.length)
    (noBreak : ∀ character ∈ row[index], isLineBreak character = false) :
    places row[index] + 2 ≤ table.naturalWidth index := by
  have asked : widest (row.getD index []) ∈
      (table.titles :: table.rows).map fun row => widest (row.getD index []) :=
    List.mem_map_of_mem member
  rw [List.getD_eq_getElem _ _ inside, widest_of_noBreak noBreak] at asked
  exact Nat.add_le_add_right (le_foldl_max asked 0) 2

/-! ### Rows -/

/-- A cell that shows a text with a space at least on each side. -/
def IsCell (text cell : List Char) : Prop :=
  ∃ shown, IsPadded text shown ∧ cell = ' ' :: shown ++ [' ']

/-- A line that shows the cells of a row, between edges of one kind. -/
def IsRow (edge : Char) (row : List (List Char)) (line : List Char) : Prop :=
  ∃ cells, List.Forall₂ IsCell row cells ∧ line = edge :: [edge].intercalate cells ++ [edge]

/-- A text that fits its column has a cell of one line. -/
theorem exists_cellLines {text : List Char} {width : Nat} (line : IsLine text) (wide : 3 ≤ width)
    (fits : places text + 2 ≤ width) (column : Column) (wraps : Bool) :
    ∃ cell, cellLines column wraps width text = [cell] ∧ IsCell text cell := by
  have inside : places text ≤ (⟨width - 2, wraps, .ellipsis, column.alignment⟩ : Layout).width :=
    Nat.le_sub_of_add_le fits
  obtain ⟨shown, laid, padded, room⟩ := exists_layOut line inside
  refine ⟨' ' :: fit (width - 2) shown ++ [' '], ?_, padRight (width - 2) shown,
    padded.padRight _, by rw [fit, if_pos room]⟩
  rw [cellLines, if_neg (Nat.not_lt.mpr wide), laid]
  rfl

/-- The cells of a row as they are laid out, each with its width. -/
def laidCells (table : Table) (widths : List Nat) (row : List (List Char)) :
    List (Nat × List (List Char)) :=
  (table.columns.zip (widths.zip row)).zipIdx.map fun entry => (entry.1.2.1,
    cellLines entry.1.1 (entry.2 = table.fixed.length) entry.1.2.1 entry.1.2.2)

theorem rowLines_eq (table : Table) (widths : List Nat) (edge : Char) (row : List (List Char)) :
    table.rowLines widths edge row =
      (List.range (((table.laidCells widths row).map fun cell => cell.2.length).foldl max 1)).map
        fun number => edge :: [edge].intercalate ((table.laidCells widths row).map fun cell =>
          cell.2.getD number (List.replicate cell.1 ' ')) ++ [edge] :=
  rfl

/-- Whether a text fits a column of some width: it is a line, and there is a place at least between
the spaces. -/
structure FitsColumn (text : List Char) (width : Nat) : Prop where
  line : IsLine text
  wide : 3 ≤ width
  fits : places text + 2 ≤ width

section Row

variable {widths : List Nat} {row : List (List Char)}
  (each : List.Forall₂ FitsColumn row widths)

include each

/-- A cell that fits its column is laid out on one line. -/
theorem exists_laidCell {index : Nat} (inside : index < (table.laidCells widths row).length)
    (inRow : index < row.length) :
    ∃ cell, (table.laidCells widths row)[index].2 = [cell] ∧ IsCell row[index] cell := by
  obtain ⟨widthsLength, each⟩ := List.forall₂_iff_get.mp each
  have own := each index inRow (widthsLength ▸ inRow)
  simp only [List.get_eq_getElem] at own
  simp only [laidCells, List.getElem_map, List.getElem_zipIdx, List.getElem_zip]
  exact exists_cellLines own.line own.wide own.fits _ _

/-- A row whose cells fit their columns is drawn on one line. -/
theorem exists_rowLines (rowLength : row.length = table.columns.length) (edge : Char) :
    ∃ line, table.rowLines widths edge row = [line] ∧ IsRow edge row line := by
  obtain ⟨cells, cells_eq⟩ : ∃ cells, table.laidCells widths row = cells := ⟨_, rfl⟩
  have length : cells.length = row.length := by
    rw [← cells_eq, laidCells, List.length_map, List.length_zipIdx, List.length_zip,
      List.length_zip, ← each.length_eq, ← rowLength, Nat.min_self, Nat.min_self]
  have laid (index : Nat) (inside : index < cells.length) :
      ∃ cell, cells[index].2 = [cell] ∧ IsCell row[index] cell := by
    subst cells_eq
    exact exists_laidCell each inside (length ▸ inside)
  have height : (cells.map fun cell => cell.2.length).foldl max 1 = 1 := by
    refine foldl_max_of_le fun number member => ?_
    obtain ⟨cell, inCells, rfl⟩ := List.mem_map.mp member
    obtain ⟨index, inside, rfl⟩ := List.mem_iff_getElem.mp inCells
    obtain ⟨shown, single, -⟩ := laid index inside
    rw [single]
    rfl
  refine ⟨_, ?_, cells.map fun cell => cell.2.getD 0 (List.replicate cell.1 ' '), ?_, rfl⟩
  · rw [rowLines_eq, cells_eq, height]
    rfl
  · rw [List.forall₂_iff_get]
    refine ⟨by rw [List.length_map, length], fun index inRow inCells => ?_⟩
    rw [List.length_map] at inCells
    obtain ⟨shown, single, isCell⟩ := laid index inCells
    simpa only [List.get_eq_getElem, List.getElem_map, single, List.getD_cons_zero] using isCell

end Row

/-! ### All lines -/

theorem forall₂_flatMap_of_single {Item : Type} {draw : Item → List (List Char)}
    {shows : Item → List Char → Prop} {items : List Item}
    (each : ∀ item ∈ items, ∃ line, draw item = [line] ∧ shows item line) :
    List.Forall₂ shows items (items.flatMap draw) := by
  induction items with
  | nil => exact .nil
  | cons item rest inductionHypothesis =>
    obtain ⟨⟨line, single, own⟩, others⟩ := List.forall_mem_cons.mp each
    rw [List.flatMap_cons, single]
    exact .cons own (inductionHypothesis others)

/-- Whether a table takes one line for each row on a console of some width: there is room for it, its
columns have titles, and all its cells are lines. -/
structure LiesFlat (table : Table) (room : Nat) : Prop where
  fits : table.FitsIn room
  named : ∀ title ∈ table.titles, 0 < places title
  full : ∀ row ∈ table.titles :: table.rows, row.length = table.columns.length
  lines : ∀ row ∈ table.titles :: table.rows, ∀ cell ∈ row, IsLine cell

section Flat

variable {room : Nat} (flat : table.LiesFlat room)

include flat

/-- A column with a title is wide enough to show something. -/
theorem three_le_naturalWidth {index : Nat} (inside : index < table.columns.length) :
    3 ≤ table.naturalWidth index := by
  have inTitles : index < table.titles.length := by rwa [titles, List.length_map]
  have member := List.getElem_mem inTitles
  have positive := flat.named _ member
  have wide := places_add_two_le List.mem_cons_self inTitles
    (flat.lines _ List.mem_cons_self _ member).noBreak
  omega

/-- There is room for a place between the spaces of a column. -/
theorem length_add_four_le : table.columns.length + 4 ≤ room := by
  have first : 0 < table.columns.length := by simp [columns]
  have own : table.naturalWidth 0 ∈ table.naturalWidths :=
    List.mem_map_of_mem (List.mem_range.mpr first)
  have wide := three_le_naturalWidth flat first
  have counted := add_le_of_fitsIn flat.fits own
  omega

/-- The lines of a table that lies flat: an edge, the titles on a line, an edge, a line for each row in
order, and an edge. -/
theorem exists_lines :
    ∃ titles rows, IsRow '┃' table.titles titles ∧ List.Forall₂ (IsRow '│') table.rows rows ∧
      table.lines room = Rule.top.line table.naturalWidths :: titles ::
        Rule.belowTitles.line table.naturalWidths :: rows ++
          [Rule.bottom.line table.naturalWidths] := by
  have drawn (edge : Char) (row : List (List Char)) (member : row ∈ table.titles :: table.rows) :
      ∃ line, table.rowLines table.naturalWidths edge row = [line] ∧ IsRow edge row line := by
    have length := flat.full row member
    refine exists_rowLines (List.forall₂_iff_get.mpr ⟨?_, fun index inside _ => ?_⟩) length edge
    · rw [length_naturalWidths, length]
    · have line := flat.lines row member _ (List.getElem_mem inside)
      simp only [List.get_eq_getElem, naturalWidths, List.getElem_map, List.getElem_range]
      exact ⟨line, three_le_naturalWidth flat (length ▸ inside),
        places_add_two_le member inside line.noBreak⟩
  obtain ⟨titles, single, shown⟩ := drawn '┃' table.titles List.mem_cons_self
  refine ⟨titles, _, shown, forall₂_flatMap_of_single fun row member =>
    drawn '│' row (List.mem_cons_of_mem _ member), ?_⟩
  unfold lines
  rw [widths_of_fitsIn flat.fits]
  dsimp only
  rw [single, if_pos (show lineWidth table.naturalWidths ≤ room from flat.fits)]
  rfl

end Flat

/-! ### Surrogates -/

/-- The lines that are drawn across a table hold no surrogates. -/
theorem isWhole_line {rule : Rule} (known : rule ∈ [Rule.top, Rule.belowTitles, Rule.bottom])
    (widths : List Nat) : IsWhole (rule.line widths) := by
  have plain : isStandIn rule.left = false ∧ isStandIn rule.fill = false ∧
      isStandIn rule.cross = false ∧ isStandIn rule.right = false := by
    revert rule
    decide
  obtain ⟨left, fill, cross, right⟩ := plain
  refine isWhole_append.mpr ⟨isWhole_cons.mpr ⟨left, ?_⟩, List.forall_mem_singleton.mpr right⟩
  refine (isWhole_intercalate (List.forall_mem_singleton.mpr cross)).mpr fun piece member => ?_
  obtain ⟨width, -, rfl⟩ := List.mem_map.mp member
  exact isWhole_replicate fill width

theorem isWhole_cellLines {text : List Char} (whole : IsWhole text) (column : Column) (wraps : Bool)
    (width : Nat) : ∀ line ∈ cellLines column wraps width text, IsWhole line := by
  unfold cellLines
  split_ifs
  · exact nofun
  · intro line member
    obtain ⟨laid, inText, rfl⟩ := List.mem_map.mp member
    have own := isWhole_fit (isWhole_layOut whole _ laid inText) (width - 2)
    exact isWhole_append.mpr ⟨isWhole_cons.mpr ⟨by decide, own⟩, by decide⟩

theorem isWhole_of_mem_laidCells {row : List (List Char)} (whole : ∀ text ∈ row, IsWhole text)
    {widths : List Nat} {cell : Nat × List (List Char)} (member : cell ∈ table.laidCells widths row) :
    ∀ line ∈ cell.2, IsWhole line := by
  obtain ⟨⟨⟨column, width, text⟩, index⟩, laid, rfl⟩ := List.mem_map.mp member
  have inZip : (column, width, text) ∈ table.columns.zip (widths.zip row) :=
    List.fst_mem_of_mem_zipIdx laid
  have inRow : text ∈ row := (List.of_mem_zip (List.of_mem_zip inZip).2).2
  exact isWhole_cellLines (whole text inRow) _ _ _

theorem isWhole_rowLines {edge : Char} (plain : isStandIn edge = false) {row : List (List Char)}
    (whole : ∀ text ∈ row, IsWhole text) (widths : List Nat) :
    ∀ line ∈ table.rowLines widths edge row, IsWhole line := by
  have own : IsWhole [edge] := List.forall_mem_singleton.mpr plain
  rw [rowLines_eq]
  intro line member
  obtain ⟨number, -, rfl⟩ := List.mem_map.mp member
  refine isWhole_append.mpr ⟨isWhole_cons.mpr ⟨plain, (isWhole_intercalate own).mpr ?_⟩, own⟩
  intro piece inPieces
  obtain ⟨cell, inCells, rfl⟩ := List.mem_map.mp inPieces
  rw [List.getD_eq_getElem?_getD]
  cases inside : cell.2[number]? with
  | none => exact isWhole_replicate (by decide) _
  | some line =>
    exact isWhole_of_mem_laidCells whole inCells line (List.mem_of_getElem? inside)

/-- A table holds no surrogates but those of its titles and texts, whatever the room for it. -/
theorem isWhole_lines (whole : ∀ row ∈ table.titles :: table.rows, ∀ cell ∈ row, IsWhole cell)
    (room : Nat) : ∀ line ∈ table.lines room, IsWhole line := by
  obtain ⟨titles, rows⟩ := List.forall_mem_cons.mp whole
  have drawn : ∀ line ∈ Rule.top.line (table.widths room) ::
      table.rowLines (table.widths room) '┃' table.titles ++
      Rule.belowTitles.line (table.widths room) ::
        table.rows.flatMap (table.rowLines (table.widths room) '│') ++
      [Rule.bottom.line (table.widths room)], IsWhole line := by
    refine List.forall_mem_append.mpr ⟨List.forall_mem_append.mpr
      ⟨List.forall_mem_cons.mpr ⟨isWhole_line (by decide) _, ?_⟩,
        List.forall_mem_cons.mpr ⟨isWhole_line (by decide) _, ?_⟩⟩,
      List.forall_mem_singleton.mpr (isWhole_line (by decide) _)⟩
    · exact isWhole_rowLines (by decide) titles _
    · exact List.forall_mem_flatMap.mpr fun row member =>
        isWhole_rowLines (by decide) (rows row member) _
  unfold lines
  dsimp only
  split_ifs
  · exact drawn
  · exact List.forall_mem_map.mpr fun line member => isWhole_fit (drawn line member) room

end Table

end LlmTxt.Terminal

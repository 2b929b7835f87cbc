import Connectives.Proofs.Grammar.OneLine
import Connectives.Proofs.Text.Grid
import Connectives.Proofs.Text.Lines
import Connectives.Proofs.Truth.Table

/-!
# Connectives — a printed truth table is a grid

The header, the rule and the rows of a printed table are lines with cells between bars. Each cell is
two blanks wider than the widest text of its column, which is the header; so all lines have their bars
at the same offsets, as long as no text in the table has a bar in it. If the names of the variables
are readable none has, nor has one a line end in it or a blank at an end. Then the table can be read
back: cut at the bars and freed of blanks, the header holds the variables and the formula, and the rows
hold the letters of their truth values.

* `TruthTable.Fits`, `TruthTable.Fits.trimBlanks_cell` — texts that are read back from a cell.
* `TruthTable.IsLine` — a line with cells of the widths of the table.
* `TruthTable.isLine_of_fits`, `TruthTable.isLine_ruleLine` — the three kinds of lines.
* `Formula.printed_table_is_grid` — the printed table, cut at its bars.
-/

namespace Connectives

open Text (barred barOffsets cutAt trimBlanks)

-- ---------------------------------------------------------------------------
-- Cells
-- ---------------------------------------------------------------------------

namespace TruthTable

/-- The character is neither a bar nor a line end. -/
def Plain (c : Char) : Prop :=
  c ≠ '|' ∧ c ≠ '\n'

instance : DecidablePred Plain :=
  fun c => inferInstanceAs (Decidable (c ≠ '|' ∧ c ≠ '\n'))

/-- The text can stand in a column of this width and be read back: it is no wider, it has no blank at
an end, and no bar or line end in it. -/
structure Fits (text : String) (width : Nat) : Prop where
  length_le : text.length ≤ width
  bareEnds : Text.BareEnds text.toList
  plain : ∀ c ∈ text.toList, Plain c

theorem plain_space : Plain ' ' := by
  constructor <;> decide

theorem forall_plain {cs : List Char} (hBar : '|' ∉ cs) (hFeed : '\n' ∉ cs) :
    ∀ c ∈ cs, Plain c := by
  intro c hc
  constructor
  · rintro rfl
    exact hBar hc
  · rintro rfl
    exact hFeed hc

/-- A cell is its text with a blank in front, and behind it the padding and another blank. -/
theorem toList_cell (text : String) (width : Nat) :
    (cell text width).toList =
      [' '] ++ (text.toList ++ List.replicate (width - text.length + 1) ' ') := by
  simp [cell, Text.padRight, Text.replicate, List.replicate_succ']

namespace Fits

variable {text : String} {width : Nat} (h : Fits text width)
include h

theorem length_cell : (cell text width).toList.length = width + 2 := by
  have hShort := h.length_le
  rw [toList_cell, List.length_append, List.length_append, String.length_toList,
    List.length_replicate, List.length_singleton]
  omega

/-- **The text is read back from its cell.** -/
theorem trimBlanks_cell : trimBlanks (cell text width).toList = text.toList := by
  have hFront : ∀ c ∈ [' '], Text.isBlank c = true := List.forall_mem_singleton.2 (by decide)
  have hBack : ∀ c ∈ List.replicate (width - text.length + 1) ' ', Text.isBlank c = true := by
    intro c hc
    rw [List.eq_of_mem_replicate hc]
    decide
  rw [toList_cell]
  exact (h.bareEnds.trimsTo hFront hBack).trimBlanks_eq

theorem plain_cell : ∀ c ∈ (cell text width).toList, Plain c := by
  rw [toList_cell]
  refine List.forall_mem_append.2 ⟨List.forall_mem_singleton.2 plain_space,
    List.forall_mem_append.2 ⟨h.plain, fun c hc => ?_⟩⟩
  rw [List.eq_of_mem_replicate hc]
  exact plain_space

end Fits

-- ---------------------------------------------------------------------------
-- Lines
-- ---------------------------------------------------------------------------

/-- The line has these cells between its bars, each two characters wider than its column. -/
structure IsLine (widths : List Nat) (cells : List (List Char)) (line : String) : Prop where
  toList_eq : line.toList = barred cells
  lengths : cells.map List.length = widths.map (· + 2)
  plain : ∀ cell ∈ cells, ∀ c ∈ cell, Plain c

/-- Cells that are joined by bars, with bars around them. -/
theorem toList_line {cells : List String} (h : cells ≠ []) :
    (line cells).toList = barred (cells.map String.toList) := by
  have hJoined (cell : String) (cells : List String) :
      ("|".intercalate (cell :: cells)).toList ++ ['|'] =
        cell.toList ++ barred (cells.map String.toList) := by
    induction cells generalizing cell with
    | nil => rw [String.intercalate_singleton, List.map_nil, barred]
    | cons next cells ih =>
      rw [String.intercalate_cons_cons, String.toList_append, String.toList_append,
        List.append_assoc, ih next, List.map_cons, barred, List.append_assoc]
      rfl
  obtain ⟨cell, cells, rfl⟩ := List.exists_cons_of_ne_nil h
  rw [line, String.toList_append, String.toList_append, List.append_assoc, List.map_cons, barred]
  exact congrArg ('|' :: ·) (hJoined cell cells)

namespace IsLine

variable {widths : List Nat} {cells : List (List Char)} {line : String}
  (h : IsLine widths cells line)
include h

theorem ne_nil : line.toList ≠ [] := by
  rw [h.toList_eq]
  cases cells <;> nofun

theorem not_newline_mem : '\n' ∉ line.toList := by
  intro hMem
  rw [h.toList_eq] at hMem
  rcases Text.mem_barred hMem with hBar | ⟨cell, hCell, hc⟩
  · cases hBar
  · exact (h.plain cell hCell _ hc).2 rfl

/-- Lines of a table are equally long. -/
theorem length_eq {cells' : List (List Char)} {line' : String} (h' : IsLine widths cells' line') :
    line.toList.length = line'.toList.length := by
  rw [h.toList_eq, h'.toList_eq]
  exact Text.length_barred_congr (h.lengths.trans h'.lengths.symm)

/-- Their bars stand at the same offsets. -/
theorem getElem?_eq_bar_iff (i : Nat) :
    line.toList[i]? = some '|' ↔ i ∈ barOffsets (widths.map (· + 2)) := by
  rw [h.toList_eq, Text.getElem?_barred_eq_bar_iff, h.lengths]
  exact fun cell hCell hc => (h.plain cell hCell _ hc).1 rfl

/-- Cut at these offsets they fall into their cells. -/
theorem cutAt_eq : cutAt (barOffsets (widths.map (· + 2))) line.toList = cells := by
  rw [h.toList_eq, ← h.lengths, Text.cutAt_barOffsets]

end IsLine

/-- **A line of texts that fit their columns.** -/
theorem isLine_of_fits {texts : List String} {widths : List Nat}
    (h : List.Forall₂ Fits texts widths) (hSome : texts ≠ []) :
    IsLine widths ((texts.zipWith cell widths).map String.toList)
      (line (texts.zipWith cell widths)) where
  toList_eq := by
    refine toList_line ?_
    cases h with
    | nil => exact absurd rfl hSome
    | cons _ _ => nofun
  lengths := by
    clear hSome
    induction h with
    | nil => rfl
    | cons hFits _ ih =>
      rw [List.zipWith_cons_cons, List.map_cons, List.map_cons, List.map_cons, hFits.length_cell, ih]
  plain := by
    clear hSome
    induction h with
    | nil => nofun
    | cons hFits _ ih => exact List.forall_mem_cons.2 ⟨hFits.plain_cell, ih⟩

/-- What a line holds between the offsets, without the blanks around it. -/
def cellsAt (offsets : List Nat) (line : List Char) : List String :=
  (cutAt offsets line).map fun cell => String.ofList (trimBlanks cell)

/-- **The texts are read back** from the line of their cells. -/
theorem cellsAt_of_fits {texts : List String} {widths : List Nat}
    (h : List.Forall₂ Fits texts widths) (hSome : texts ≠ []) :
    cellsAt (barOffsets (widths.map (· + 2))) (line (texts.zipWith cell widths)).toList = texts := by
  rw [cellsAt, (isLine_of_fits h hSome).cutAt_eq]
  clear hSome
  induction h with
  | nil => rfl
  | @cons text width texts widths hFits _ ih =>
    have hText : String.ofList (trimBlanks (cell text width).toList) = text := by
      rw [hFits.trimBlanks_cell, String.ofList_toList]
    exact congrArg₂ List.cons hText ih

/-- **The rule** is a line with a dash for each character of a cell. -/
theorem isLine_ruleLine {t : TruthTable} (hSome : t.widths ≠ []) :
    IsLine t.widths (t.widths.map fun w => List.replicate (w + 2) '-') t.ruleLine where
  toList_eq := by
    rw [ruleLine, toList_line (by simpa using hSome), List.map_map]
    refine congrArg barred (List.map_congr_left fun w _ => ?_)
    exact String.toList_ofList
  lengths := by
    rw [List.map_map]
    exact List.map_congr_left fun w _ => List.length_replicate
  plain := by
    refine List.forall_mem_map.2 fun w _ c hc => ?_
    rw [List.eq_of_mem_replicate hc]
    constructor <;> decide

-- ---------------------------------------------------------------------------
-- The texts of a table
-- ---------------------------------------------------------------------------

theorem fits_letter (b : Bool) {width : Nat} (h : 1 ≤ width) : Fits (letter b) width := by
  cases b with
  | true =>
    exact ⟨h, Text.bareEnds_singleton (by decide), List.forall_mem_singleton.2 (by decide)⟩
  | false =>
    exact ⟨h, Text.bareEnds_singleton (by decide), List.forall_mem_singleton.2 (by decide)⟩

/-- A letter fits every column that has a header. -/
theorem fits_letters {values : List Bool} {widths : List Nat} (hLength : values.length = widths.length)
    (hWide : ∀ width ∈ widths, 1 ≤ width) : List.Forall₂ Fits (values.map letter) widths := by
  rw [List.forall₂_map_left_iff, List.forall₂_iff_zip]
  exact ⟨hLength, fun hMem => fits_letter _ (hWide _ (List.of_mem_zip hMem).2)⟩

end TruthTable

namespace Formula

open TruthTable

theorem plain_of_readableName {v : String} (h : ReadableName v) : ∀ c ∈ v.toList, Plain c := by
  have hContinues := IsWord.continuesWord_of_mem h.1
  refine forall_plain (fun hBar => ?_) fun hFeed => ?_
  · exact absurd (hContinues _ hBar) (by decide)
  · exact absurd (hContinues _ hFeed) (by decide)

theorem plain_symbols (c : Connective) : ∀ d ∈ (c.text .symbols).toList, Plain d := by
  have hNone : '|' ∉ (c.text .symbols).toList ∧ '\n' ∉ (c.text .symbols).toList := by
    cases c with
    | binary op => cases op <;> decide
    | top | bottom | not => decide
  exact forall_plain hNone.1 hNone.2

section Readable

variable {f : Formula} (hNames : ∀ v ∈ f.vars, ReadableName v)
include hNames

/-- The headers are the widest texts of their columns, and none is empty. -/
theorem fits_headers (rows : List (List Bool × Bool)) :
    ∀ h ∈ headers ⟨f.vars, f, rows⟩, Fits h h.length ∧ 1 ≤ h.length := by
  have hSome {h : String} (hNe : h.toList ≠ []) : 1 ≤ h.length := by
    rw [← String.length_toList]
    exact List.length_pos_iff.2 hNe
  refine List.forall_mem_append.2 ⟨fun v hv => ?_, List.forall_mem_singleton.2 ?_⟩
  · have hSpells := spells_var (hNames v hv)
    exact ⟨⟨Nat.le_refl _, hSpells.bareEnds, plain_of_readableName (hNames v hv)⟩,
      hSome hSpells.ne_nil⟩
  · have hPlain : ∀ c ∈ (f.render .symbols).toList, Plain c :=
      forall_mem_render_of plain_space (by decide) (by decide) plain_symbols fun v hv =>
        plain_of_readableName (hNames v hv)
    exact ⟨⟨Nat.le_refl _, bareEnds_render .symbols hNames, hPlain⟩,
      hSome (render_ne_nil .symbols hNames)⟩

/-- **The headers** fit their columns. -/
theorem forall₂_fits_headers (rows : List (List Bool × Bool)) :
    List.Forall₂ Fits (headers ⟨f.vars, f, rows⟩) (widths ⟨f.vars, f, rows⟩) := by
  rw [widths, List.forall₂_map_right_iff, List.forall₂_same]
  exact fun h hMem => (fits_headers hNames rows h hMem).1

/-- **The letters of a row** fit the columns, if the row has a value for each variable. -/
theorem forall₂_fits_row {rows : List (List Bool × Bool)} {row : List Bool × Bool}
    (hLength : row.1.length = f.vars.length) :
    List.Forall₂ Fits ((row.1 ++ [row.2]).map letter) (widths ⟨f.vars, f, rows⟩) := by
  refine fits_letters ?_ (List.forall_mem_map.2 fun h hMem => (fits_headers hNames rows h hMem).2)
  rw [widths, List.length_map, headers, List.length_append, List.length_append, hLength]
  rfl

/-- All lines of the table have cells of its widths. -/
theorem isLine_of_mem_lines {rows : List (List Bool × Bool)}
    (hRows : ∀ row ∈ rows, row.1.length = f.vars.length) :
    ∀ l ∈ lines ⟨f.vars, f, rows⟩, ∃ cells, IsLine (widths ⟨f.vars, f, rows⟩) cells l := by
  have hSome : widths ⟨f.vars, f, rows⟩ ≠ [] := by simp [widths, headers]
  have hHeader := isLine_of_fits (forall₂_fits_headers hNames rows) (by simp [headers])
  refine List.forall_mem_cons.2 ⟨⟨_, hHeader⟩, List.forall_mem_cons.2 ⟨⟨_, isLine_ruleLine hSome⟩,
    List.forall_mem_map.2 fun row hRow => ?_⟩⟩
  exact ⟨_, isLine_of_fits (forall₂_fits_row hNames (hRows row hRow)) (by simp)⟩

end Readable

/-- A row has a value for each variable. -/
theorem length_of_mem_tableRows {f : Formula} :
    ∀ row ∈ f.tableRows, row.1.length = f.vars.length := by
  rw [tableRows]
  exact List.forall_mem_map.2 fun a _ => List.length_map _

/-- **A printed truth table is a grid.** If a formula has at most 127 variables, all with readable
names, its table is printed on a line for the headers, a line for the rule, and a line for each
valuation of the variables. All lines are equally long and have their bars at the same offsets. Cut at
these and freed of blanks, the first line holds the variables and the printed formula, and each row holds
the letters of the truth values that the row of the table has. -/
theorem printed_table_is_grid {f : Formula} (hFew : f.vars.length ≤ 127)
    (hNames : ∀ v ∈ f.vars, ReadableName v) :
    ∃ t, f.truthTable = .ok t ∧ ∃ header rule rows offsets,
      Text.lines t.render.toList = header :: rule :: rows ∧
      (header :: rule :: rows).length = Nat.pow 2 f.vars.length + 2 ∧
      (∀ l ∈ header :: rule :: rows, l.length = header.length) ∧
      (∀ l ∈ header :: rule :: rows, ∀ i, l[i]? = some '|' ↔ i ∈ offsets) ∧
      offsets.Pairwise (· < ·) ∧
      cellsAt offsets header = f.vars ++ [f.render .symbols] ∧
      rows.map (cellsAt offsets) = t.rows.map fun row => (row.1 ++ [row.2]).map letter := by
  let t : TruthTable := ⟨f.vars, f, f.tableRows⟩
  have hTable : f.truthTable = .ok t := f.truthTable_eq.trans (if_pos hFew)
  have hAll := isLine_of_mem_lines hNames f.length_of_mem_tableRows
  have hHeaders := forall₂_fits_headers hNames f.tableRows
  have hHeaderLine := isLine_of_fits hHeaders (by simp [headers])
  have hLines : Text.lines t.render.toList = t.lines.map String.toList := by
    refine Text.lines_intercalate (fun l hl => ?_) fun l hl => ?_
    · exact (hAll l hl).elim fun _ h => h.not_newline_mem
    · exact (hAll l hl).elim fun _ h => h.ne_nil
  have hLength : ∀ l ∈ t.lines.map String.toList,
      l.length = (line (t.headers.zipWith cell t.widths)).toList.length :=
    List.forall_mem_map.2 fun l hl => (hAll l hl).elim fun _ h => h.length_eq hHeaderLine
  have hBars : ∀ l ∈ t.lines.map String.toList, ∀ i,
      l[i]? = some '|' ↔ i ∈ barOffsets (t.widths.map (· + 2)) :=
    List.forall_mem_map.2 fun l hl => (hAll l hl).elim fun _ h => h.getElem?_eq_bar_iff
  refine ⟨t, hTable, _, _, (t.rows.map t.rowLine).map String.toList, _, hLines, ?_, hLength, hBars,
    Text.pairwise_barOffsets _, cellsAt_of_fits hHeaders (by simp [headers]), ?_⟩
  · rw [List.length_cons, List.length_cons, List.length_map, List.length_map]
    exact congrArg (· + 2) f.tabulates_tableRows.length_rows
  · rw [List.map_map, List.map_map]
    refine List.map_congr_left fun row hRow => ?_
    exact cellsAt_of_fits (forall₂_fits_row hNames (f.length_of_mem_tableRows row hRow)) (by simp)

/-- The table of `p ↑ q` has six lines. Its header holds `p`, `q` and `p ↑ q`, and the row in which both
are true holds that the formula is not. -/
theorem printed_table_is_grid_nand :
    let f : Formula := .binary .nand (.var "p") (.var "q")
    f.vars.length ≤ 127 ∧ (∀ v ∈ f.vars, ReadableName v) ∧
      ∃ t, f.truthTable = .ok t ∧ ∃ header rule rows offsets,
        Text.lines t.render.toList = header :: rule :: rows ∧
        (header :: rule :: rows).length = 6 ∧
        (∀ l ∈ header :: rule :: rows, l.length = header.length) ∧
        (∀ l ∈ header :: rule :: rows, ∀ i, l[i]? = some '|' ↔ i ∈ offsets) ∧
        cellsAt offsets header = ["p", "q", "p ↑ q"] ∧
        (rows.map (cellsAt offsets))[3]? = some ["T", "T", "F"] := by
  intro f
  have hFew : f.vars.length ≤ 127 := by decide
  have hNames : ∀ v ∈ f.vars, ReadableName v := by decide
  obtain ⟨t, hTable, header, rule, rows, offsets, hLines, hCount, hLength, hBars, -, hHeader, hRows⟩ :=
    printed_table_is_grid hFew hNames
  have hRow : t.rows[3]? = some ([true, true], false) := by
    have hSame := hTable.symm.trans (f.truthTable_eq.trans (if_pos hFew))
    cases hSame
    exact (f.tabulates_tableRows.row 3 (by decide)).2 (fun _ => true) (by decide)
  refine ⟨hFew, hNames, t, hTable, header, rule, rows, offsets, hLines, hCount, hLength, hBars,
    hHeader, ?_⟩
  rw [hRows, List.getElem?_map, hRow]
  rfl

end Formula

end Connectives

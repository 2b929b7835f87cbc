import Connectives.Proofs.Text.Blank
import Connectives.Text.Lines

/-!
# Connectives — lines are read back

Lines that hold no line feed are read back from the text of them all, each as it was. If they end
with a carriage return and a line feed, the carriage return stays with the line as a blank; so it is
the same line between the blanks, whichever way it ends.

* `InLines` — a text and its lines, with either line end.
* `inLines_lines` — every text has lines.
* `InLines.map_trimBlanks` — those that are found are the same between blanks.
* `lines_unlines`, `lines_intercalate` — lines are read back.
-/

namespace Connectives.Text

-- ---------------------------------------------------------------------------
-- Either line end
-- ---------------------------------------------------------------------------

/-- What ends a line: a line feed, with a carriage return in front of it or without. -/
inductive LineEnd where
  | feed
  | returnFeed
  deriving DecidableEq, Repr

/-- The characters of a line end. -/
def LineEnd.chars : LineEnd → List Char
  | feed => ['\n']
  | returnFeed => ['\r', '\n']

/-- The text consists of the lines, each with an end behind it; the last one may go without. A
carriage return in front of a line feed may be taken for a part of the end, or for the last
character of the line. -/
inductive InLines : List Char → List (List Char) → Prop
  | nil : InLines [] []
  | last {line : List Char} : line ≠ [] → '\n' ∉ line → InLines line [line]
  | cons (e : LineEnd) {line rest : List Char} {ls : List (List Char)} :
      '\n' ∉ line → InLines rest ls → InLines (line ++ (e.chars ++ rest)) (line :: ls)

theorem InLines.not_newline_mem {cs : List Char} {ls : List (List Char)} (h : InLines cs ls) :
    ∀ line ∈ ls, '\n' ∉ line := by
  induction h with
  | nil => exact nofun
  | last _ hFeed => exact List.forall_mem_singleton.2 hFeed
  | cons _ hFeed _ ih => exact List.forall_mem_cons.2 ⟨hFeed, ih⟩

-- ---------------------------------------------------------------------------
-- Finding lines
-- ---------------------------------------------------------------------------

/-- A line feed ends the line in front of it. -/
theorem lines_append {line : List Char} (h : '\n' ∉ line) (rest : List Char) :
    lines (line ++ '\n' :: rest) = line :: lines rest := by
  induction line with
  | nil => rw [List.nil_append, lines, if_pos rfl]
  | cons c line ih =>
    obtain ⟨hChar, hLine⟩ := not_or.1 (mt List.mem_cons.2 h)
    rw [List.cons_append, lines, if_neg (Ne.symm hChar), ih hLine]

/-- Without a line feed there is one line. -/
theorem lines_eq_singleton {line : List Char} (hLine : line ≠ []) (h : '\n' ∉ line) :
    lines line = [line] := by
  induction line with
  | nil => exact absurd rfl hLine
  | cons c line ih =>
    obtain ⟨hChar, hRest⟩ := not_or.1 (mt List.mem_cons.2 h)
    rw [lines, if_neg (Ne.symm hChar)]
    cases line with
    | nil => rfl
    | cons d line => rw [ih (List.cons_ne_nil d line) hRest]

/-- **Every text has lines.** -/
theorem inLines_lines (cs : List Char) : InLines cs (lines cs) := by
  -- by recursion on what is left behind the first line feed
  by_cases hFeed : '\n' ∈ cs
  · obtain ⟨line, rest, rfl, hLine⟩ := List.eq_append_cons_of_mem hFeed
    rw [lines_append hLine]
    exact InLines.cons .feed hLine (inLines_lines rest)
  · cases cs with
    | nil => exact .nil
    | cons c cs =>
      rw [lines_eq_singleton (List.cons_ne_nil c cs) hFeed]
      exact .last (List.cons_ne_nil c cs) hFeed
termination_by cs.length

/-- **The lines that are found are the same between blanks**, whichever way they end. -/
theorem InLines.map_trimBlanks {cs : List Char} {ls : List (List Char)} (h : InLines cs ls) :
    (lines cs).map trimBlanks = ls.map trimBlanks := by
  induction h with
  | nil => rfl
  | last hLine hFeed => rw [lines_eq_singleton hLine hFeed]
  | @cons e line rest ls hFeed _ ih =>
    cases e with
    | feed =>
      show (lines (line ++ '\n' :: rest)).map trimBlanks = _
      rw [lines_append hFeed, List.map_cons, List.map_cons, ih]
    | returnFeed =>
      have hReturn : ∀ c ∈ ['\r'], isBlank c = true := List.forall_mem_singleton.2 (by decide)
      have hSame : trimBlanks (line ++ ['\r']) = trimBlanks line :=
        ((trimsTo_trimBlanks line).append_blanks hReturn).trimBlanks_eq
      have hNone : '\n' ∉ line ++ ['\r'] := by
        simp [hFeed]
      have hText : line ++ (LineEnd.returnFeed.chars ++ rest) = (line ++ ['\r']) ++ '\n' :: rest := by
        simp [LineEnd.chars]
      rw [hText, lines_append hNone, List.map_cons, List.map_cons, hSame, ih]

-- ---------------------------------------------------------------------------
-- Lines that end with a line feed
-- ---------------------------------------------------------------------------

theorem toList_unlines_cons (l : String) (ls : List String) :
    (unlines (l :: ls)).toList = l.toList ++ '\n' :: (unlines ls).toList := by
  simp [unlines]

@[simp] theorem unlines_nil : unlines [] = "" := rfl

@[simp] theorem unlines_cons (l : String) (ls : List String) :
    unlines (l :: ls) = l ++ ("\n" ++ unlines ls) := by
  rw [unlines, unlines, List.map_cons, String.join_cons, String.append_assoc]

@[simp] theorem unlines_append (ls ms : List String) :
    unlines (ls ++ ms) = unlines ls ++ unlines ms := by
  rw [unlines, unlines, unlines, List.map_append, String.join_append]

/-- **Lines are read back.** -/
theorem lines_unlines {ls : List String} (h : ∀ l ∈ ls, '\n' ∉ l.toList) :
    lines (unlines ls).toList = ls.map String.toList := by
  induction ls with
  | nil => rfl
  | cons l ls ih =>
    rw [toList_unlines_cons, lines_append (h l List.mem_cons_self),
      ih fun m hMem => h m (List.mem_cons_of_mem l hMem), List.map_cons]

-- ---------------------------------------------------------------------------
-- Lines with line feeds between them
-- ---------------------------------------------------------------------------

/-- **Lines are read back without a line feed behind the last one** as well, if none of them is
empty. -/
theorem lines_intercalate {ls : List String} (hFeed : ∀ l ∈ ls, '\n' ∉ l.toList)
    (hSome : ∀ l ∈ ls, l.toList ≠ []) :
    lines ("\n".intercalate ls).toList = ls.map String.toList := by
  induction ls with
  | nil => rfl
  | cons l ls ih =>
    obtain ⟨hFirst, hRest⟩ := List.forall_mem_cons.1 hFeed
    obtain ⟨hSomeFirst, hSomeRest⟩ := List.forall_mem_cons.1 hSome
    cases ls with
    | nil => rw [String.intercalate_singleton, lines_eq_singleton hSomeFirst hFirst, List.map_singleton]
    | cons m ls =>
      have hText : ("\n".intercalate (l :: m :: ls)).toList =
          l.toList ++ '\n' :: ("\n".intercalate (m :: ls)).toList := by
        simp [String.intercalate_cons_cons]
      rw [hText, lines_append hFirst, ih hRest hSomeRest]
      rfl

end Connectives.Text

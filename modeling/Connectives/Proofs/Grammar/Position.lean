import Mathlib.Data.List.TakeWhile
import Connectives.Grammar.Position
import Connectives.Text.Blank

/-!
# Connectives — positions are what a reader counts

A byte offset is told as a line and a column by a search among the starts of lines. A reader would
count instead: the line feeds in front of the place, and the characters since the last one. Both
come to the same for every offset at which a character starts or the text ends.

* `Text.byteLength_append`, `dropBytes?_append`, `takeBytes?_append` — cutting a text by bytes.
* `Position.after` — the position behind some characters, counted.
* `LineIndex.position?_ofSource` — a position is found, and it is the one that is counted.
-/

namespace Connectives

-- ---------------------------------------------------------------------------
-- Cutting by bytes
-- ---------------------------------------------------------------------------

namespace Text

@[simp] theorem byteLength_nil : byteLength [] = 0 := rfl

@[simp] theorem byteLength_cons (c : Char) (cs : List Char) :
    byteLength (c :: cs) = c.utf8Size + byteLength cs := rfl

@[simp] theorem byteLength_append (cs ds : List Char) :
    byteLength (cs ++ ds) = byteLength cs + byteLength ds := by
  induction cs with
  | nil => simp
  | cons c cs ih => rw [List.cons_append, byteLength_cons, byteLength_cons, ih, Nat.add_assoc]

/-- A character has at least one byte, so cutting one off gets ahead. -/
theorem exists_byteLength_cons (c : Char) (cs : List Char) :
    ∃ n, byteLength (c :: cs) = n + 1 ∧ c.utf8Size ≤ n + 1 ∧
      n + 1 - c.utf8Size = byteLength cs := by
  have hPos := c.utf8Size_pos
  refine ⟨c.utf8Size - 1 + byteLength cs, ?_, ?_, ?_⟩
  · rw [byteLength_cons]
    omega
  · omega
  · omega

end Text

open Text (byteLength)

theorem dropBytes?_append (cs ds : List Char) :
    dropBytes? (cs ++ ds) (byteLength cs) = some ds := by
  induction cs with
  | nil =>
    rw [Text.byteLength_nil, List.nil_append]
    cases ds <;> rfl
  | cons c cs ih =>
    obtain ⟨n, hLength, hFits, hRest⟩ := Text.exists_byteLength_cons c cs
    rw [hLength, List.cons_append, dropBytes?, if_pos hFits, hRest, ih]

theorem takeBytes?_append (cs ds : List Char) :
    takeBytes? (cs ++ ds) (byteLength cs) = some cs := by
  induction cs with
  | nil =>
    rw [Text.byteLength_nil, List.nil_append]
    cases ds <;> rfl
  | cons c cs ih =>
    obtain ⟨n, hLength, hFits, hRest⟩ := Text.exists_byteLength_cons c cs
    rw [hLength, List.cons_append, takeBytes?, if_pos hFits, hRest, ih]
    rfl

theorem sliceBytes?_append (before cs after : List Char) :
    sliceBytes? (before ++ (cs ++ after)) (byteLength before) (byteLength (before ++ cs)) =
      some cs := by
  have hOrder : byteLength before ≤ byteLength (before ++ cs) := by
    rw [Text.byteLength_append]
    omega
  have hLength : byteLength (before ++ cs) - byteLength before = byteLength cs := by
    rw [Text.byteLength_append]
    omega
  rw [sliceBytes?, if_pos hOrder, dropBytes?_append, hLength]
  exact takeBytes?_append cs after

-- ---------------------------------------------------------------------------
-- The starts of lines
-- ---------------------------------------------------------------------------

namespace LineIndex

theorem startsAfter_append (offset : Nat) (cs ds : List Char) :
    startsAfter offset (cs ++ ds) =
      startsAfter offset cs ++ startsAfter (offset + byteLength cs) ds := by
  induction cs generalizing offset with
  | nil => rfl
  | cons c cs ih =>
    rw [List.cons_append, startsAfter, startsAfter, ih, Text.byteLength_cons, ← Nat.add_assoc]
    split <;> rfl

theorem length_startsAfter (offset : Nat) (cs : List Char) :
    (startsAfter offset cs).length = cs.count '\n' := by
  induction cs generalizing offset with
  | nil => rfl
  | cons c cs ih =>
    rw [startsAfter, List.count_cons]
    split
    · next hFeed => rw [List.length_cons, ih, hFeed, beq_self_eq_true, if_pos rfl]
    · next hOther => rw [ih, beq_eq_false_iff_ne.2 hOther, if_neg Bool.false_ne_true, Nat.add_zero]

/-- A line starts behind the line feed that ends the one before it. -/
theorem mem_startsAfter {offset start : Nat} {cs : List Char} (h : start ∈ startsAfter offset cs) :
    offset < start ∧ start ≤ offset + byteLength cs := by
  induction cs generalizing offset with
  | nil => cases h
  | cons c cs ih =>
    have hPos := c.utf8Size_pos
    rw [Text.byteLength_cons]
    rw [startsAfter] at h
    have hLater : start ∈ startsAfter (offset + c.utf8Size) cs →
        offset < start ∧ start ≤ offset + (c.utf8Size + byteLength cs) := by
      intro hRest
      have hBounds := ih hRest
      omega
    split at h
    · rcases List.mem_cons.1 h with rfl | hRest
      · omega
      · exact hLater hRest
    · exact hLater h

/-- Where no line ends, none starts. -/
theorem startsAfter_eq_nil {offset : Nat} {cs : List Char} (h : '\n' ∉ cs) :
    startsAfter offset cs = [] := by
  rw [← List.length_eq_zero_iff, length_startsAfter, List.count_eq_zero]
  exact h

end LineIndex

-- ---------------------------------------------------------------------------
-- Counting
-- ---------------------------------------------------------------------------

/-- The position behind some characters at the start of a text: the line feeds among them count the
lines, and the characters since the last line feed count the columns. -/
def Position.after (cs : List Char) : Position :=
  ⟨1 + cs.count '\n', 1 + (cs.reverse.takeWhile (· != '\n')).length⟩

/-- Where no line ends, the place is on the first line, and all characters count for the column. -/
theorem Position.after_of_not_newline_mem {cs : List Char} (h : '\n' ∉ cs) :
    Position.after cs = ⟨1, 1 + cs.length⟩ := by
  have hOther : ∀ c ∈ cs.reverse, (c != '\n') = true := by
    intro c hc
    rw [bne_iff_ne]
    rintro rfl
    exact h (List.mem_reverse.1 hc)
  rw [Position.after, List.count_eq_zero.2 h, List.takeWhile_eq_self_iff.2 hOther,
    List.length_reverse]

/-- Characters are some whole lines, and then the part of a line that counts for the column. -/
theorem exists_lines_append (cs : List Char) :
    ∃ lines column, cs = lines ++ column ∧ '\n' ∉ column ∧
      column.length = (cs.reverse.takeWhile (· != '\n')).length ∧
      (lines = [] ∨ ∃ ls, lines = ls ++ ['\n']) := by
  refine ⟨(cs.reverse.dropWhile (· != '\n')).reverse, (cs.reverse.takeWhile (· != '\n')).reverse,
    ?_, ?_, List.length_reverse, ?_⟩
  · rw [← List.reverse_append, List.takeWhile_append_dropWhile, List.reverse_reverse]
  · intro hFeed
    have hOther := List.all_eq_true.1 List.all_takeWhile _ (List.mem_reverse.1 hFeed)
    simp at hOther
  · cases hRest : cs.reverse.dropWhile (· != '\n') with
    | nil => exact Or.inl rfl
    | cons c rest =>
      have hStop := List.head?_dropWhile_not (· != '\n') cs.reverse
      rw [hRest] at hStop
      have hFeed : c = '\n' := by simpa using hStop
      exact Or.inr ⟨rest.reverse, by rw [List.reverse_cons, hFeed]⟩

namespace LineIndex

/-- The last line to start among some characters starts where their column is counted from. -/
theorem getElem?_starts (lines column : List Char) (hColumn : '\n' ∉ column)
    (hLines : lines = [] ∨ ∃ ls, lines = ls ++ ['\n']) :
    (0 :: startsAfter 0 (lines ++ column))[(lines ++ column).count '\n']? =
      some (byteLength lines) := by
  have hNone := List.count_eq_zero.2 hColumn
  rw [startsAfter_append, startsAfter_eq_nil hColumn, List.append_nil, List.count_append, hNone,
    Nat.add_zero]
  rcases hLines with rfl | ⟨ls, rfl⟩
  · rfl
  · have hCount : (ls ++ ['\n']).count '\n' = (startsAfter 0 ls).length + 1 := by
      rw [List.count_append, length_startsAfter]
      rfl
    rw [hCount, List.getElem?_cons_succ, startsAfter_append,
      List.getElem?_append_right (Nat.le_refl _), Nat.sub_self, Text.byteLength_append, Nat.zero_add]
    rfl

/-- The lines up to a place start before those behind it. -/
theorem starts_ofSource (before rest : List Char) :
    (ofSource (before ++ rest)).starts =
      (0 :: startsAfter 0 before) ++ startsAfter (byteLength before) rest := by
  rw [ofSource, startsAfter_append, Nat.zero_add]
  rfl

theorem length_starts (cs : List Char) : (0 :: startsAfter 0 cs).length = 1 + cs.count '\n' := by
  rw [List.length_cons, length_startsAfter, Nat.add_comm]

/-- The search for the first line that starts later stops behind the lines up to the place. -/
theorem line_ofSource (before rest : List Char) :
    ((ofSource (before ++ rest)).starts.findIdx? (byteLength before < ·)).getD
      (ofSource (before ++ rest)).starts.length = 1 + before.count '\n' := by
  have hNotBefore : (0 :: startsAfter 0 before).findIdx? (byteLength before < ·) = none := by
    rw [List.findIdx?_eq_none_iff]
    intro start hStart
    rw [decide_eq_false_iff_not, Nat.not_lt]
    rcases List.mem_cons.1 hStart with rfl | hMem
    · exact Nat.zero_le _
    · have hBound := (mem_startsAfter hMem).2
      omega
  rw [starts_ofSource, List.findIdx?_append, hNotBefore, Option.none_or, length_starts]
  cases hRest : startsAfter (byteLength before) rest with
  | nil =>
    rw [List.append_nil, length_starts]
    rfl
  | cons start more =>
    have hMem : start ∈ startsAfter (byteLength before) rest := hRest ▸ List.mem_cons_self
    have hBound := (mem_startsAfter hMem).1
    rw [List.findIdx?_cons, if_pos (by simpa using hBound)]
    simp

/-- **A position is found, and it is the one that is counted**, for every place in a text. -/
theorem position?_ofSource (before rest : List Char) :
    (ofSource (before ++ rest)).position? (byteLength before) = some (Position.after before) := by
  obtain ⟨lines, column, hSplit, hColumn, hLength, hLines⟩ := exists_lines_append before
  have hStart : (ofSource (before ++ rest)).starts[1 + before.count '\n' - 1]? =
      some (byteLength lines) := by
    have hPlace := getElem?_starts lines column hColumn hLines
    rw [← hSplit] at hPlace
    have hIndex : before.count '\n' < (0 :: startsAfter 0 before).length := by
      rw [length_starts]
      exact Nat.lt_add_of_pos_left Nat.one_pos
    rw [starts_ofSource, Nat.add_sub_cancel_left, List.getElem?_append_left hIndex, hPlace]
  have hSlice : sliceBytes? (ofSource (before ++ rest)).source (byteLength lines)
      (byteLength before) = some column := by
    rw [ofSource, hSplit, List.append_assoc]
    exact sliceBytes?_append lines column rest
  rw [position?, line_ofSource, hStart, Position.after, ← hLength]
  show (sliceBytes? _ _ _).bind _ = _
  rw [hSlice, Nat.add_comm 1 column.length]
  rfl

theorem position_ofSource (before rest : List Char) :
    (ofSource (before ++ rest)).position (byteLength before) = Position.after before := by
  rw [position, position?_ofSource, Option.getD_some]

end LineIndex

end Connectives

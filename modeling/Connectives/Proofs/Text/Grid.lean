import Mathlib.Data.List.Basic

/-!
# Connectives — cells between bars

A line of a table has its cells between vertical bars. How long the line is, and where its bars stand,
is known from the widths of its cells as long as there is no bar within a cell. So lines with cells of
the same widths are equally long and have their bars at the same offsets; and a line that is cut at
these offsets falls into its cells.

* `barred`, `barOffsets` — cells between bars, and where the bars stand.
* `length_barred_congr`, `getElem?_barred_eq_bar_iff` — what is known from the widths.
* `cutAt_barOffsets` — cutting the line gives the cells back.
-/

namespace Connectives.Text

/-- The cells with bars between and around them. -/
def barred : List (List Char) → List Char
  | [] => ['|']
  | cell :: cells => '|' :: (cell ++ barred cells)

/-- The offsets of the bars between and around cells of these widths. -/
def barOffsets : List Nat → List Nat
  | [] => [0]
  | width :: widths => 0 :: (barOffsets widths).map (· + (width + 1))

/-- What a line holds between each of the offsets and the next one. -/
def cutAt (offsets : List Nat) (line : List Char) : List (List Char) :=
  (offsets.zip offsets.tail).map fun (i, j) => (line.take j).drop (i + 1)

/-- A character of the line is a bar or stands in a cell. -/
theorem mem_barred {c : Char} {cells : List (List Char)} (h : c ∈ barred cells) :
    c = '|' ∨ ∃ cell ∈ cells, c ∈ cell := by
  induction cells with
  | nil => exact Or.inl (List.mem_singleton.1 h)
  | cons cell cells ih =>
    rcases List.mem_cons.1 h with rfl | hRest
    · exact Or.inl rfl
    · rcases List.mem_append.1 hRest with hCell | hLater
      · exact Or.inr ⟨cell, List.mem_cons_self, hCell⟩
      · rcases ih hLater with rfl | ⟨cell', hMem, hc⟩
        · exact Or.inl rfl
        · exact Or.inr ⟨cell', List.mem_cons_of_mem cell hMem, hc⟩

-- ---------------------------------------------------------------------------
-- What is known from the widths
-- ---------------------------------------------------------------------------

/-- **Lines with cells of the same widths are equally long.** -/
theorem length_barred_congr {cells cells' : List (List Char)}
    (h : cells.map List.length = cells'.map List.length) :
    (barred cells).length = (barred cells').length := by
  induction cells generalizing cells' with
  | nil =>
    cases cells' with
    | nil => rfl
    | cons cell' cells' => cases h
  | cons cell cells ih =>
    cases cells' with
    | nil => cases h
    | cons cell' cells' =>
      obtain ⟨hCell, hCells⟩ := List.cons.inj h
      rw [barred, barred, List.length_cons, List.length_cons, List.length_append,
        List.length_append, hCell, ih hCells]

/-- **The bars stand at the offsets for the widths**, and nowhere else. -/
theorem getElem?_barred_eq_bar_iff {cells : List (List Char)} (h : ∀ cell ∈ cells, '|' ∉ cell)
    (i : Nat) : (barred cells)[i]? = some '|' ↔ i ∈ barOffsets (cells.map List.length) := by
  induction cells generalizing i with
  | nil => cases i <;> simp [barred, barOffsets]
  | cons cell cells ih =>
    obtain ⟨hCell, hCells⟩ := List.forall_mem_cons.1 h
    rw [barred, List.map_cons, barOffsets, List.mem_cons, List.mem_map]
    cases i with
    | zero => simp
    | succ i =>
      rw [List.getElem?_cons_succ]
      by_cases hInside : i < cell.length
      · -- within the cell, and all later bars are farther to the right
        rw [List.getElem?_append_left hInside]
        constructor
        · intro hBar
          exact absurd (List.mem_of_getElem? hBar) hCell
        · rintro (hZero | ⟨j, -, hj⟩)
          · cases hZero
          · omega
      · rw [List.getElem?_append_right (Nat.not_lt.1 hInside), ih hCells]
        constructor
        · intro hBar
          exact Or.inr ⟨_, hBar, by omega⟩
        · rintro (hZero | ⟨j, hBar, hj⟩)
          · cases hZero
          · have hSame : i - cell.length = j := by omega
            rwa [hSame]

/-- The offsets come in their order. -/
theorem pairwise_barOffsets (widths : List Nat) : (barOffsets widths).Pairwise (· < ·) := by
  induction widths with
  | nil => exact List.pairwise_singleton _ _
  | cons width widths ih =>
    refine List.pairwise_cons.2 ⟨?_, ih.map _ fun i j hij => Nat.add_lt_add_right hij _⟩
    intro i hi
    obtain ⟨j, -, rfl⟩ := List.mem_map.1 hi
    omega

-- ---------------------------------------------------------------------------
-- Cutting
-- ---------------------------------------------------------------------------

theorem exists_barOffsets_eq (widths : List Nat) : ∃ offsets, barOffsets widths = 0 :: offsets := by
  cases widths with
  | nil => exact ⟨[], rfl⟩
  | cons width widths => exact ⟨_, rfl⟩

theorem cutAt_cons_cons (i j : Nat) (offsets : List Nat) (line : List Char) :
    cutAt (i :: j :: offsets) line = (line.take j).drop (i + 1) :: cutAt (j :: offsets) line := rfl

/-- Behind some characters everything is farther to the right. -/
theorem cutAt_append {front : List Char} {n : Nat} (h : front.length = n) (offsets : List Nat)
    (line : List Char) : cutAt (offsets.map (· + n)) (front ++ line) = cutAt offsets line := by
  subst h
  rw [cutAt, ← List.map_tail, List.zip_map, List.map_map, cutAt]
  refine List.map_congr_left ?_
  rintro ⟨i, j⟩ -
  have hTake : (front ++ line).take (j + front.length) = front ++ line.take j := by
    rw [Nat.add_comm, List.take_length_add_append]
  have hDrop : (front ++ line.take j).drop (i + front.length + 1) = (line.take j).drop (i + 1) := by
    rw [Nat.add_right_comm, Nat.add_comm, List.drop_length_add_append]
  simp only [Function.comp_apply, Prod.map_apply]
  rw [hTake, hDrop]

/-- **A line that is cut at its bars falls into its cells.** -/
theorem cutAt_barOffsets (cells : List (List Char)) :
    cutAt (barOffsets (cells.map List.length)) (barred cells) = cells := by
  induction cells with
  | nil => rfl
  | cons cell cells ih =>
    obtain ⟨offsets, hOffsets⟩ := exists_barOffsets_eq (cells.map List.length)
    have hFront : ('|' :: cell).length = cell.length + 1 := rfl
    have hLater := cutAt_append hFront (barOffsets (cells.map List.length)) (barred cells)
    have hHere : (('|' :: cell ++ barred cells).take (0 + (cell.length + 1))).drop (0 + 1) = cell := by
      rw [Nat.zero_add, Nat.zero_add, ← hFront, List.take_left]
      rfl
    rw [ih, hOffsets, List.map_cons] at hLater
    rw [List.map_cons, barOffsets, hOffsets, List.map_cons, cutAt_cons_cons]
    exact congrArg₂ List.cons hHere hLater

end Connectives.Text

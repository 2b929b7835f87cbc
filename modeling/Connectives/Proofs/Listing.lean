import Connectives.Listing
import Connectives.Proofs.Results

/-!
# Connectives — the lines of a listing

Which lines of a text are significant is said here line by line: the line with this number is there,
and it holds more than blanks and a comment. A listing is read if each of these lines is a formula,
and otherwise the failure is that of the first one that is none.

* `Listing.LineAt` — the significant line with a number.
* `Listing.mem_significantLines`, `pairwise_significantLines` — they are listed by number.
* `Listing.parse_eq_ok_iff` — the formulas of a listing are those of its significant lines.
* `Listing.parse_eq_error_iff` — the first line that is no formula is reported.
* `Listing.exists_parse_eq_error` — reading fails if there is such a line, wherever it stands.
-/

namespace Connectives.Listing

/-- The line with this number, counted from 1, is significant, and holds `l` between blanks. -/
def LineAt (text : String) (number : Nat) (l : String) : Prop :=
  ∃ i line, number = i + 1 ∧ (Text.lines text.toList)[i]? = some line ∧
    isSignificant (Text.trimBlanks line) = true ∧ l = String.ofList (Text.trimBlanks line)

variable {text : String}

theorem mem_significantLines {number : Nat} {l : String} :
    ⟨number, l⟩ ∈ significantLines text.toList ↔ LineAt text number l := by
  simp only [significantLines, List.mem_filterMap, Prod.exists, Option.ite_none_right_eq_some,
    Option.some.injEq, Line.mk.injEq]
  constructor
  · rintro ⟨line, number', hMem, hSignificant, rfl, rfl⟩
    obtain ⟨hFrom, hLine⟩ := List.mk_mem_zipIdx_iff_le_and_getElem?_sub.1 hMem
    exact ⟨number' - 1, line, (Nat.sub_add_cancel hFrom).symm, hLine, hSignificant, rfl⟩
  · rintro ⟨i, line, rfl, hLine, hSignificant, rfl⟩
    refine ⟨line, i + 1, ?_, hSignificant, rfl, rfl⟩
    exact List.mk_mem_zipIdx_iff_le_and_getElem?_sub.2 ⟨Nat.le_add_left 1 i, hLine⟩

/-- The significant lines are listed by number. -/
theorem pairwise_significantLines (cs : List Char) :
    (significantLines cs).Pairwise fun a b => a.number < b.number := by
  have hNumbers : ((Text.lines cs).zipIdx 1).Pairwise fun a b => a.2 < b.2 := by
    rw [← List.pairwise_map (f := Prod.snd), List.zipIdx_map_snd]
    exact List.pairwise_lt_range'
  refine hNumbers.filterMap _ ?_
  rintro ⟨line, n⟩ ⟨line', n'⟩ hLess l hl l' hl'
  obtain ⟨-, ⟨⟩⟩ := Option.ite_none_right_eq_some.1 hl
  obtain ⟨-, ⟨⟩⟩ := Option.ite_none_right_eq_some.1 hl'
  exact hLess

theorem parseLine_eq_ok_iff {l : Line} {f : Formula} :
    parseLine l = .ok f ↔ Connectives.parse l.text = .ok f :=
  mapError_eq_ok_iff

/-- A listing is in order if each significant line is a formula. -/
theorem parse_eq_ok_iff {text : String} {fs : List Formula} :
    parse text = .ok fs ↔
      (significantLines text.toList).map (fun l => Connectives.parse l.text) = fs.map .ok := by
  rw [parse, mapM_eq_ok_iff]
  generalize significantLines text.toList = ls
  induction ls generalizing fs with
  | nil => cases fs <;> simp
  | cons l ls ih =>
    cases fs with
    | nil => exact iff_of_false nofun nofun
    | cons f fs =>
      rw [List.map_cons, List.map_cons, List.map_cons, List.map_cons, List.cons.injEq,
        List.cons.injEq, parseLine_eq_ok_iff, ih]

/-- Each formula of a listing has been read from some text. -/
theorem exists_parse_of_mem {text : String} {fs : List Formula} (h : parse text = .ok fs)
    {f : Formula} (hf : f ∈ fs) : ∃ l, Connectives.parse l = .ok f := by
  have hMem : (.ok f : Except ParseError Formula) ∈ fs.map .ok := List.mem_map_of_mem hf
  rw [← parse_eq_ok_iff.1 h] at hMem
  obtain ⟨l, -, hParse⟩ := List.mem_map.1 hMem
  exact ⟨l.text, hParse⟩

theorem parseLine_eq_error_iff {l : Line} {e : Error} :
    parseLine l = .error e ↔ e.line = l.number ∧ Connectives.parse l.text = .error e.fault := by
  obtain ⟨number, fault⟩ := e
  simp only [parseLine, mapError_eq_error_iff, Error.mk.injEq]
  constructor
  · rintro ⟨_, hFault, rfl, rfl⟩
    exact ⟨rfl, hFault⟩
  · rintro ⟨rfl, hFault⟩
    exact ⟨fault, hFault, rfl, rfl⟩

/-- **The first line that is no formula is reported**, with its number and with its own fault. -/
theorem parse_eq_error_iff {e : Error} :
    parse text = .error e ↔
      ∃ l, LineAt text e.line l ∧ Connectives.parse l = .error e.fault ∧
        ∀ n < e.line, ∀ l', LineAt text n l' → ∃ f, Connectives.parse l' = .ok f := by
  have hSorted := pairwise_significantLines text.toList
  rw [parse, mapM_eq_error_iff]
  constructor
  · rintro ⟨before, l, after, hSplit, hBefore, hFails⟩
    obtain ⟨hNumber, hFault⟩ := parseLine_eq_error_iff.1 hFails
    rw [hSplit, List.pairwise_append, List.pairwise_cons] at hSorted
    refine ⟨l.text, ?_, hFault, ?_⟩
    · rw [hNumber, ← mem_significantLines, hSplit]
      exact List.mem_append_right before List.mem_cons_self
    · intro n hn l' hl'
      -- a line with a smaller number is listed before this one
      have hMem := mem_significantLines.2 hl'
      rw [hSplit, List.mem_append, List.mem_cons] at hMem
      rcases hMem with hMem | hMem | hMem
      · obtain ⟨f, hf⟩ := hBefore _ hMem
        exact ⟨f, mapError_eq_ok_iff.1 hf⟩
      · rw [hNumber, ← hMem] at hn
        exact absurd hn (Nat.lt_irrefl n)
      · have hLater := hSorted.2.1.1 _ hMem
        rw [hNumber] at hn
        exact absurd hn (Nat.lt_asymm hLater)
  · rintro ⟨l, hLine, hFault, hFirst⟩
    obtain ⟨before, after, hSplit⟩ := List.append_of_mem (mem_significantLines.2 hLine)
    refine ⟨before, _, after, hSplit, fun l' hl' => ?_, parseLine_eq_error_iff.2 ⟨rfl, hFault⟩⟩
    rw [hSplit, List.pairwise_append] at hSorted
    have hLess := hSorted.2.2 l' hl' _ List.mem_cons_self
    have hMem : l' ∈ significantLines text.toList := by
      rw [hSplit]
      exact List.mem_append_left _ hl'
    obtain ⟨f, hf⟩ := hFirst l'.number hLess l'.text (mem_significantLines.1 hMem)
    exact ⟨f, mapError_eq_ok_iff.2 hf⟩

/-- **Reading fails if any significant line is no formula**, wherever it stands. -/
theorem exists_parse_eq_error {number : Nat} {l : String} (hLine : LineAt text number l)
    (hBad : ∀ f, Connectives.parse l ≠ .ok f) : ∃ e, parse text = .error e := by
  cases hParse : parse text with
  | error e => exact ⟨e, rfl⟩
  | ok fs =>
    have hAll := mapM_eq_ok_iff.1 hParse
    have hMem : parseLine ⟨number, l⟩ ∈ fs.map .ok := by
      rw [← hAll]
      exact List.mem_map_of_mem (mem_significantLines.2 hLine)
    obtain ⟨f, -, hf⟩ := List.mem_map.1 hMem
    exact absurd (mapError_eq_ok_iff.1 hf.symm) (hBad f)

end Connectives.Listing

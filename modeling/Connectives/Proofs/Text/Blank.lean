import Connectives.Text.Blank

/-!
# Connectives — blanks around a text

Skipping blanks ends at the first character that is none, and trimming does this at both ends. So
what is left by trimming is told without it: it begins and ends with no blank, and only blanks were
around it.

* `takeWhile_blanks`, `dropWhile_blanks`, `exists_blanks_append` — blanks in front of a text.
* `Text.TrimsTo` — what a text holds between the blanks at its ends.
* `Text.trimBlanks_eq_iff` — trimming finds it.
-/

namespace Connectives

-- ---------------------------------------------------------------------------
-- Blanks in front
-- ---------------------------------------------------------------------------

/-- What a run of characters of a kind stops at is not of the kind. -/
theorem head?_dropWhile (p : Char → Bool) (cs : List Char) :
    ∀ c ∈ (cs.dropWhile p).head?, p c = false := by
  intro c hHead
  have hNot := List.head?_dropWhile_not p cs
  rw [Option.mem_def.1 hHead] at hNot
  exact hNot

section Blanks

variable {gap rest : List Char} (hGap : ∀ c ∈ gap, Text.isBlank c = true)
  (hRest : ∀ c ∈ rest.head?, Text.isBlank c = false)
include hGap hRest

/-- Blanks reach up to the first character that is none. -/
theorem takeWhile_blanks : (gap ++ rest).takeWhile Text.isBlank = gap := by
  rw [List.takeWhile_append_of_pos hGap]
  cases rest with
  | nil => rw [List.takeWhile_nil, List.append_nil]
  | cons c cs => rw [List.takeWhile_cons_of_neg (by simp [hRest c rfl]), List.append_nil]

/-- Skipping blanks ends at the first character that is none. -/
theorem dropWhile_blanks : (gap ++ rest).dropWhile Text.isBlank = rest := by
  rw [List.dropWhile_append_of_pos hGap]
  cases rest with
  | nil => rfl
  | cons c cs => rw [List.dropWhile_cons_of_neg (by simp [hRest c rfl])]

end Blanks

/-- Every text begins with some blanks, or none, and goes on with a character that is no blank. -/
theorem exists_blanks_append (cs : List Char) :
    ∃ gap rest, cs = gap ++ rest ∧ (∀ c ∈ gap, Text.isBlank c = true) ∧
      ∀ c ∈ rest.head?, Text.isBlank c = false :=
  ⟨cs.takeWhile Text.isBlank, cs.dropWhile Text.isBlank, List.takeWhile_append_dropWhile.symm,
    fun _ hMem => List.all_eq_true.1 List.all_takeWhile _ hMem, head?_dropWhile _ cs⟩

-- ---------------------------------------------------------------------------
-- Blanks at both ends
-- ---------------------------------------------------------------------------

namespace Text

/-- No blank stands at either end of the characters. -/
structure BareEnds (cs : List Char) : Prop where
  first : ∀ c ∈ cs.head?, isBlank c = false
  last : ∀ c ∈ cs.getLast?, isBlank c = false

theorem bareEnds_singleton {c : Char} (h : isBlank c = false) : BareEnds [c] where
  first d hd := by
    cases hd
    exact h
  last d hd := by
    cases hd
    exact h

/-- What begins and ends with parts of this kind is of this kind, whatever is in between. -/
theorem BareEnds.append_append {cs ds : List Char} (hFirst : BareEnds cs) (hLast : BareEnds ds)
    (hcs : cs ≠ []) (hds : ds ≠ []) (between : List Char) :
    BareEnds (cs ++ (between ++ ds)) where
  first c hc := by
    obtain ⟨d, rest, rfl⟩ := List.exists_cons_of_ne_nil hcs
    exact hFirst.first c hc
  last c hc := by
    obtain ⟨d, hd⟩ := Option.ne_none_iff_exists'.1 (mt List.getLast?_eq_none_iff.1 hds)
    rw [← List.append_assoc, List.getLast?_append, hd, Option.some_or, ← hd] at hc
    exact hLast.last c hc

/-- Between the blanks at its ends the text holds these characters. -/
def TrimsTo (cs core : List Char) : Prop :=
  ∃ front back, cs = front ++ (core ++ back) ∧ (∀ c ∈ front, isBlank c = true) ∧
    (∀ c ∈ back, isBlank c = true) ∧ BareEnds core

theorem trimsTo_trimBlanks (cs : List Char) : TrimsTo cs (trimBlanks cs) := by
  obtain ⟨front, rest, rfl, hFront, hRest⟩ := exists_blanks_append cs
  obtain ⟨back, core, hBack, hBlank, hCore⟩ := exists_blanks_append rest.reverse
  have hSplit : rest = core.reverse ++ back.reverse := by
    rw [← List.reverse_append, ← hBack, List.reverse_reverse]
  have hTrim : trimBlanks (front ++ rest) = core.reverse := by
    rw [trimBlanks, dropWhile_blanks hFront hRest, hBack, dropWhile_blanks hBlank hCore]
  rw [hTrim]
  refine ⟨front, back.reverse, by rw [← hSplit], hFront, ?_, ?_, ?_⟩
  · intro c hc
    exact hBlank c (List.mem_reverse.1 hc)
  · intro c hc
    refine hRest c ?_
    rw [hSplit, List.head?_append, Option.mem_def.1 hc]
    rfl
  · intro c hc
    rw [List.getLast?_reverse] at hc
    exact hCore c hc

/-- What a text holds between the blanks at its ends is determined. -/
theorem TrimsTo.trimBlanks_eq {cs core : List Char} (h : TrimsTo cs core) :
    trimBlanks cs = core := by
  obtain ⟨front, back, rfl, hFront, hBack, hEnds⟩ := h
  have hReverse : ∀ c ∈ back.reverse, isBlank c = true := by
    intro c hc
    exact hBack c (List.mem_reverse.1 hc)
  cases core with
  | nil =>
    -- nothing but blanks, so that the first pass takes them all
    have hAll : ∀ c ∈ front ++ back, isBlank c = true := by
      intro c hc
      exact (List.mem_append.1 hc).elim (hFront c) (hBack c)
    have hNone := dropWhile_blanks hAll (show ∀ c ∈ ([] : List Char).head?, _ by simp)
    rw [List.append_nil] at hNone
    rw [trimBlanks, List.nil_append, hNone]
    rfl
  | cons d ds =>
    have hFirst : ∀ c ∈ (d :: ds ++ back).head?, isBlank c = false := hEnds.first
    have hLast : ∀ c ∈ (d :: ds).reverse.head?, isBlank c = false := by
      rw [List.head?_reverse]
      exact hEnds.last
    rw [trimBlanks, dropWhile_blanks hFront hFirst, List.reverse_append,
      dropWhile_blanks hReverse hLast, List.reverse_reverse]

/-- **Trimming finds what a text holds between the blanks at its ends.** -/
theorem trimBlanks_eq_iff {cs core : List Char} : trimBlanks cs = core ↔ TrimsTo cs core := by
  constructor
  · rintro rfl
    exact trimsTo_trimBlanks cs
  · exact TrimsTo.trimBlanks_eq

theorem BareEnds.trimsTo {cs : List Char} (h : BareEnds cs) {front back : List Char}
    (hFront : ∀ c ∈ front, isBlank c = true) (hBack : ∀ c ∈ back, isBlank c = true) :
    TrimsTo (front ++ (cs ++ back)) cs :=
  ⟨front, back, rfl, hFront, hBack, h⟩

/-- Blanks that come behind the text make no difference. -/
theorem TrimsTo.append_blanks {cs core : List Char} (h : TrimsTo cs core) {gap : List Char}
    (hGap : ∀ c ∈ gap, isBlank c = true) : TrimsTo (cs ++ gap) core := by
  obtain ⟨front, back, rfl, hFront, hBack, hEnds⟩ := h
  refine ⟨front, back ++ gap, by simp, hFront, ?_, hEnds⟩
  exact List.forall_mem_append.2 ⟨hBack, hGap⟩

end Text

end Connectives

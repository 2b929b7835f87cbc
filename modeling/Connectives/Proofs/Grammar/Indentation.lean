import Connectives.Proofs.Grammar.FirstFault

/-!
# Connectives — blanks around a text with a fault

A text that is no formula is none with blanks around it either, and the fault in it is the same. Only
its place changes, by the blanks that come in front: a reader who counts from the start of the text
has these to count as well.

What stands in front of a fault is told by the text alone, for any place that the fault may be
reported with. So it can be compared with the place that the parser reports.

* `FaultBehind` — the characters in front of a fault.
* `exists_faultBehind_of_parse`, `FaultBehind.exists_parse` — the parser reports the place behind them.
* `FaultBehind.length_eq` — on a single line their number is determined.
* `FaultBehind.append_blanks`, `FaultBehind.indent` — blanks behind the text and in front of it.
-/

namespace Connectives

open Text (isBlank)

-- ---------------------------------------------------------------------------
-- What stands in front of a fault
-- ---------------------------------------------------------------------------

/-- Where the fault is. -/
def Fault.place {Place : Type} : Fault Place → Place
  | .unexpected place _ _ => place
  | .invalid place => place
  | .incomplete place _ => place
  | .extra place _ => place

/-- In the text a fault of this kind comes right behind the characters `before`, wherever it is said
to be. Where the text is incomplete they reach to the end of its last token. -/
inductive FaultBehind (cs before : List Char) : ParseError → Prop
  | unexpected {spelled : List Char} {place : Position} {expected : List TokenKind} :
      MisfitAt cs before spelled →
        FaultBehind cs before (.unexpected place expected (String.ofList spelled))
  | invalid {place : Position} : StrayAt cs before → FaultBehind cs before (.invalid place)
  | incomplete {ts : List Token} {place : Position} {expected : List TokenKind} :
      EndAt cs before ts → (∀ f, ¬ Derives .formula ts f) →
        FaultBehind cs before (.incomplete place expected)

/-- **The parser reports the place behind the characters in front of the fault.** -/
theorem exists_faultBehind_of_parse {text : String} {fault : ParseError}
    (h : parse text = .error fault) :
    ∃ before, FaultBehind text.toList before fault ∧ fault.place = Position.after before := by
  cases Answers.of_parse h with
  | misfit hPlace _ => exact ⟨_, .unexpected hPlace, rfl⟩
  | stray hPlace _ => exact ⟨_, .invalid hPlace, rfl⟩
  | incomplete hPlace hNone => exact ⟨_, .incomplete hPlace hNone, rfl⟩

/-- A text in which there is a fault is reported with that place. -/
theorem FaultBehind.exists_parse {text : String} {before : List Char} {fault : ParseError}
    (h : FaultBehind text.toList before fault) :
    ∃ reported, parse text = .error reported ∧ reported.place = Position.after before := by
  cases h with
  | unexpected hPlace =>
    obtain ⟨expected, hParse⟩ := parse_eq_unexpected_iff.2 ⟨_, _, hPlace, rfl, rfl⟩
    exact ⟨_, hParse, rfl⟩
  | invalid hPlace => exact ⟨_, parse_eq_invalid_iff.2 ⟨_, hPlace, rfl⟩, rfl⟩
  | incomplete hPlace hNone =>
    obtain ⟨expected, hParse⟩ := parse_eq_incomplete_iff.2 ⟨_, _, hPlace, hNone, rfl⟩
    exact ⟨_, hParse, rfl⟩

namespace FaultBehind

variable {cs before : List Char} {fault : ParseError}

/-- They are the first characters of the text. -/
theorem starts (h : FaultBehind cs before fault) : before <+: cs := by
  cases h with
  | unexpected hPlace =>
    obtain ⟨ts, t, hToken⟩ := hPlace
    cases hToken
    rw [← List.append_assoc]
    exact List.prefix_append _ _
  | invalid hPlace =>
    cases hPlace
    rw [← List.append_assoc]
    exact List.prefix_append _ _
  | incomplete hPlace _ =>
    cases hPlace
    exact List.prefix_append _ _

/-- On a single line the place behind them is told by their number. -/
theorem after_eq (h : FaultBehind cs before fault) (hFeed : '\n' ∉ cs) :
    Position.after before = ⟨1, 1 + before.length⟩ :=
  Position.after_of_not_newline_mem fun hMem => hFeed (h.starts.subset hMem)

/-- **On a single line their number is determined.** -/
theorem length_eq {before' : List Char} {fault' : ParseError} (h : FaultBehind cs before fault)
    (h' : FaultBehind cs before' fault') (hFeed : '\n' ∉ cs) : before.length = before'.length := by
  have hPlace := h.after_eq hFeed
  have hPlace' := h'.after_eq hFeed
  rw [← String.toList_ofList (l := cs)] at h h'
  obtain ⟨reported, hParse, hReported⟩ := h.exists_parse
  obtain ⟨reported', hParse', hReported'⟩ := h'.exists_parse
  rw [hParse'] at hParse
  cases hParse
  have hSame := hReported.symm.trans hReported'
  rw [hPlace, hPlace', Position.mk.injEq] at hSame
  exact Nat.add_left_cancel hSame.2

end FaultBehind

-- ---------------------------------------------------------------------------
-- Blanks behind the text
-- ---------------------------------------------------------------------------

section Append

variable {cs before back : List Char} (hBack : ∀ c ∈ back, isBlank c = true)
include hBack

theorem beginsBlank_of_blank : BeginsBlank back :=
  fun c hc => hBack c (List.mem_of_mem_head? hc)

theorem EndAt.append_blanks {ts : List Token} (h : EndAt cs before ts) :
    EndAt (cs ++ back) before ts := by
  cases h with
  | intro hLexes hGap hViable =>
    have hFront := hLexes.append (beginsBlank_of_blank hBack)
    rw [List.append_assoc]
    exact .intro hFront (List.forall_mem_append.2 ⟨hGap, hBack⟩) hViable

/-- **Blanks behind the text** leave the fault where it is. -/
theorem FaultBehind.append_blanks {fault : ParseError} (h : FaultBehind cs before fault) :
    FaultBehind (cs ++ back) before fault := by
  have hBlank := beginsBlank_of_blank hBack
  cases h with
  | unexpected hPlace =>
    obtain ⟨ts, t, hToken⟩ := hPlace
    exact .unexpected ⟨ts, t, hToken.append hBlank⟩
  | invalid hPlace => exact .invalid (hPlace.append hBlank)
  | incomplete hPlace hNone => exact .incomplete (hPlace.append_blanks hBack) hNone

end Append

-- ---------------------------------------------------------------------------
-- Blanks in front of the text
-- ---------------------------------------------------------------------------

section Indent

variable {cs before spelled margin : List Char} (hMargin : ∀ c ∈ margin, isBlank c = true)
include hMargin

/-- Tokens may be indented. Where there are none, the blanks are left for what comes next. -/
theorem LexesBefore.exists_indent {rest front : List Char} {ts : List Token}
    (h : LexesBefore rest front ts) :
    ∃ front' gap, (∀ more, margin ++ (front ++ more) = front' ++ (gap ++ more)) ∧
      LexesBefore (gap ++ rest) front' ts ∧ (∀ c ∈ gap, isBlank c = true) ∧
      (ts ≠ [] → front' = margin ++ front ∧ gap = []) := by
  cases h with
  | nil => exact ⟨[], margin, fun _ => rfl, .nil, hMargin, fun h => absurd rfl h⟩
  | @token gap spelled front t ts hGap hMatch hRest =>
    have hWide : ∀ c ∈ margin ++ gap, isBlank c = true := List.forall_mem_append.2 ⟨hMargin, hGap⟩
    have hTokens := LexesBefore.token hWide hMatch hRest
    rw [List.append_assoc] at hTokens
    exact ⟨_, [], by simp, hTokens, nofun, fun _ => ⟨rfl, rfl⟩⟩

/-- So may tokens with a gap behind them, which takes the blanks that are left. -/
theorem LexesBefore.exists_indent_gap {gap rest front : List Char} {ts : List Token}
    (h : LexesBefore (gap ++ rest) front ts) (hGap : ∀ c ∈ gap, isBlank c = true) :
    ∃ front' gap', (∀ more, margin ++ (front ++ (gap ++ more)) = front' ++ (gap' ++ more)) ∧
      margin ++ (front ++ gap) = front' ++ gap' ∧ LexesBefore (gap' ++ rest) front' ts ∧
      ∀ c ∈ gap', isBlank c = true := by
  obtain ⟨front', gap', hSplit, hFront, hGap', -⟩ := h.exists_indent hMargin
  rw [← List.append_assoc] at hFront
  refine ⟨front', gap' ++ gap, fun more => ?_, hSplit gap, hFront,
    List.forall_mem_append.2 ⟨hGap', hGap⟩⟩
  rw [hSplit, List.append_assoc]

theorem MisfitToken.indent {ts : List Token} {t : Token} (h : MisfitToken cs before spelled ts t) :
    MisfitToken (margin ++ cs) (margin ++ before) spelled ts t := by
  cases h with
  | intro hLexes hGap hMatch hViable hMisfit =>
    obtain ⟨front', gap', hText, hBefore, hFront, hWide⟩ := hLexes.exists_indent_gap hMargin hGap
    rw [hText, hBefore]
    exact .intro hFront hWide hMatch hViable hMisfit

theorem StrayAt.indent (h : StrayAt cs before) : StrayAt (margin ++ cs) (margin ++ before) := by
  cases h with
  | intro hLexes hGap hChar hNone hViable =>
    obtain ⟨front', gap', hText, hBefore, hFront, hWide⟩ := hLexes.exists_indent_gap hMargin hGap
    rw [hText, hBefore]
    exact .intro hFront hWide hChar hNone hViable

/-- An end is told by the last token in front of it, so there has to be one. -/
theorem EndAt.indent {ts : List Token} (h : EndAt cs before ts)
    (hSome : ∃ c ∈ cs, isBlank c = false) : EndAt (margin ++ cs) (margin ++ before) ts := by
  cases h with
  | @intro front gap ts hLexes hGap hViable =>
    have hTokens : ts ≠ [] := by
      rintro rfl
      cases hLexes
      obtain ⟨c, hc, hChar⟩ := hSome
      rw [hGap c hc] at hChar
      cases hChar
    obtain ⟨front', gap', -, hFront, -, hSplit⟩ := hLexes.exists_indent hMargin
    obtain ⟨rfl, rfl⟩ := hSplit hTokens
    rw [← List.append_assoc]
    exact .intro hFront hGap hViable

/-- **Blanks in front of the text** come in front of the fault as well. -/
theorem FaultBehind.indent {fault : ParseError} (h : FaultBehind cs before fault)
    (hSome : ∃ c ∈ cs, isBlank c = false) : FaultBehind (margin ++ cs) (margin ++ before) fault := by
  cases h with
  | unexpected hPlace =>
    obtain ⟨ts, t, hToken⟩ := hPlace
    exact .unexpected ⟨ts, t, hToken.indent hMargin⟩
  | invalid hPlace => exact .invalid (hPlace.indent hMargin)
  | incomplete hPlace hNone => exact .incomplete (hPlace.indent hMargin hSome) hNone

end Indent

end Connectives

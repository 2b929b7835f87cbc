import Connectives.Proofs.Grammar.OneLine
import Connectives.Proofs.Listing
import Connectives.Proofs.Text.Lines

/-!
# Connectives — a listing is its significant lines

What is read of a text is decided by its significant lines, in their order. The other lines count
only for the numbers that failures are told with. So blank lines and comments may come and go, and
every line may be indented as one likes. A list of formulas that is written down line by line is
read back, in either script and with either line end.

Lines, and what they hold between blanks, are told here by relations. Numbers are left aside at first:
`significantTexts` is what the significant lines hold, and reading a listing is reading these texts one
after the other.

* `Listing.mapError_fault_parse` — reading is done text by text.
* `Listing.parse_eq_ok_iff_lists` — the formulas that are read.
* `Listing.lineAt_iff` — the significant line with a number.
* `Listing.Edits.significantTexts_eq` — what does not change by editing blank lines and comments.
* `Listing.Writes.lists` — formulas that are written down.
* `Listing.reads_significant_lines` — all of it together.
-/

namespace Connectives

namespace Listing

open Text (InLines TrimsTo isBlank trimBlanks)

-- ---------------------------------------------------------------------------
-- Significant lines
-- ---------------------------------------------------------------------------

/-- Between blanks the line holds these characters, and they are more than a comment. -/
def Holds (line core : List Char) : Prop :=
  TrimsTo line core ∧ core ≠ [] ∧ ¬ ['/', '/'] <+: core

/-- The line is blank, or a comment. -/
def Idle (line : List Char) : Prop :=
  ∃ core, TrimsTo line core ∧ (core = [] ∨ ['/', '/'] <+: core)

theorem isSignificant_iff {core : List Char} :
    isSignificant core = true ↔ core ≠ [] ∧ ¬ ['/', '/'] <+: core := by
  rw [isSignificant, Bool.and_eq_true, Bool.not_eq_true', Bool.not_eq_true', ← Bool.not_eq_true,
    ← Bool.not_eq_true, List.isEmpty_iff, List.isPrefixOf_iff_prefix]

theorem holds_iff {line core : List Char} :
    Holds line core ↔ trimBlanks line = core ∧ isSignificant core = true := by
  rw [Holds, Text.trimBlanks_eq_iff, isSignificant_iff]

theorem idle_iff {line : List Char} : Idle line ↔ isSignificant (trimBlanks line) = false := by
  rw [← Bool.not_eq_true, isSignificant_iff, Classical.not_and_iff_not_or_not, Classical.not_not,
    Classical.not_not]
  constructor
  · rintro ⟨core, hTrims, hIdle⟩
    rwa [hTrims.trimBlanks_eq]
  · intro hIdle
    exact ⟨_, Text.trimsTo_trimBlanks line, hIdle⟩

/-- What the significant lines hold, in their order. -/
def significantTexts (ls : List (List Char)) : List String :=
  ((ls.map trimBlanks).filter isSignificant).map String.ofList

@[simp] theorem significantTexts_nil : significantTexts [] = [] := rfl

theorem significantTexts_cons_of_idle {line : List Char} (h : Idle line) (ls : List (List Char)) :
    significantTexts (line :: ls) = significantTexts ls := by
  rw [significantTexts, List.map_cons, List.filter_cons_of_neg (by rw [idle_iff.1 h]; decide)]
  rfl

theorem significantTexts_cons_of_holds {line core : List Char} (h : Holds line core)
    (ls : List (List Char)) :
    significantTexts (line :: ls) = String.ofList core :: significantTexts ls := by
  obtain ⟨hTrim, hSignificant⟩ := holds_iff.1 h
  rw [significantTexts, List.map_cons, hTrim, List.filter_cons_of_pos hSignificant, List.map_cons]
  rfl

/-- Every line is either idle or holds something. -/
theorem idle_or_holds (line : List Char) : Idle line ∨ ∃ core, Holds line core := by
  cases hSignificant : isSignificant (trimBlanks line) with
  | false => exact Or.inl (idle_iff.2 hSignificant)
  | true => exact Or.inr ⟨_, holds_iff.2 ⟨rfl, hSignificant⟩⟩

-- ---------------------------------------------------------------------------
-- Reading text by text
-- ---------------------------------------------------------------------------

section Lines

variable {text : String} {ls : List (List Char)} (hLines : InLines text.toList ls)
include hLines

/-- The significant lines that are found hold these texts. -/
theorem map_text_significantLines :
    (significantLines text.toList).map Line.text = significantTexts ls := by
  have hFound (n : Nat) (ms : List (List Char)) :
      ((ms.zipIdx n).filterMap fun numbered =>
        let text := trimBlanks numbered.1
        if isSignificant text then some (Line.mk numbered.2 (String.ofList text)) else none).map
          Line.text = significantTexts ms := by
    induction ms generalizing n with
    | nil => rfl
    | cons line ms ih =>
      rw [List.zipIdx_cons, List.filterMap_cons]
      cases hSignificant : isSignificant (trimBlanks line) with
      | false =>
        rw [significantTexts_cons_of_idle (idle_iff.2 hSignificant), ← ih (n + 1)]
        simp [hSignificant]
      | true =>
        rw [significantTexts_cons_of_holds (holds_iff.2 ⟨rfl, hSignificant⟩), ← ih (n + 1)]
        simp [hSignificant]
  calc (significantLines text.toList).map Line.text
      = significantTexts (Text.lines text.toList) := hFound 1 _
    _ = significantTexts ls := by rw [significantTexts, hLines.map_trimBlanks, significantTexts]

/-- **Reading a listing is reading its significant lines**, if numbers are left aside. -/
theorem mapError_fault_parse :
    (parse text).mapError Error.fault = (significantTexts ls).mapM Connectives.parse := by
  have hLine (l : Line) : (parseLine l).mapError Error.fault = Connectives.parse l.text := by
    rw [parseLine]
    cases Connectives.parse l.text <;> rfl
  rw [parse, mapError_mapM, ← map_text_significantLines hLines, List.mapM_map]
  exact congrArg (fun read => (significantLines text.toList).mapM read) (funext hLine)

end Lines

-- ---------------------------------------------------------------------------
-- The formulas that are read
-- ---------------------------------------------------------------------------

/-- The significant lines are read as these formulas, in their order. -/
inductive Lists : List (List Char) → List Formula → Prop
  | nil : Lists [] []
  | idle {line : List Char} {ls : List (List Char)} {fs : List Formula} :
      Idle line → Lists ls fs → Lists (line :: ls) fs
  | formula {line core : List Char} {ls : List (List Char)} {f : Formula} {fs : List Formula} :
      Holds line core → Connectives.parse (String.ofList core) = .ok f → Lists ls fs →
        Lists (line :: ls) (f :: fs)

theorem lists_iff {ls : List (List Char)} {fs : List Formula} :
    Lists ls fs ↔ (significantTexts ls).map Connectives.parse = fs.map .ok := by
  constructor
  · intro h
    induction h with
    | nil => rfl
    | idle hIdle _ ih => rw [significantTexts_cons_of_idle hIdle, ih]
    | formula hHolds hParse _ ih =>
      rw [significantTexts_cons_of_holds hHolds, List.map_cons, List.map_cons, hParse, ih]
  · intro h
    induction ls generalizing fs with
    | nil =>
      cases fs with
      | nil => exact .nil
      | cons f fs => cases h
    | cons line ls ih =>
      rcases idle_or_holds line with hIdle | ⟨core, hHolds⟩
      · rw [significantTexts_cons_of_idle hIdle] at h
        exact .idle hIdle (ih h)
      · rw [significantTexts_cons_of_holds hHolds] at h
        cases fs with
        | nil => cases h
        | cons f fs =>
          obtain ⟨hParse, hRest⟩ := List.cons.inj h
          exact .formula hHolds hParse (ih hRest)

/-- **The formulas that are read** are those of the significant lines, if all of these are formulas. -/
theorem parse_eq_ok_iff_lists {text : String} {ls : List (List Char)}
    (hLines : InLines text.toList ls) {fs : List Formula} : parse text = .ok fs ↔ Lists ls fs := by
  rw [lists_iff, ← mapM_eq_ok_iff, ← mapError_fault_parse hLines, mapError_eq_ok_iff]

-- ---------------------------------------------------------------------------
-- The line that is no formula
-- ---------------------------------------------------------------------------

/-- The line with this number, counted from 1, is significant and holds these characters. -/
def HoldsAt (ls : List (List Char)) (number : Nat) (core : List Char) : Prop :=
  ∃ i line, number = i + 1 ∧ ls[i]? = some line ∧ Holds line core

/-- **The significant line with a number** is the one that is found. -/
theorem lineAt_iff {text : String} {ls : List (List Char)} (hLines : InLines text.toList ls)
    {number : Nat} {l : String} :
    LineAt text number l ↔ ∃ core, HoldsAt ls number core ∧ l = String.ofList core := by
  have hTrimmed (i : Nat) : (Text.lines text.toList)[i]?.map trimBlanks = ls[i]?.map trimBlanks := by
    rw [← List.getElem?_map, ← List.getElem?_map, hLines.map_trimBlanks]
  constructor
  · rintro ⟨i, line, rfl, hLine, hSignificant, rfl⟩
    have hSame := hTrimmed i
    rw [hLine, Option.map_some] at hSame
    obtain ⟨line', hLine', hTrim⟩ := Option.map_eq_some_iff.1 hSame.symm
    exact ⟨_, ⟨i, line', rfl, hLine', holds_iff.2 ⟨hTrim, hSignificant⟩⟩, rfl⟩
  · rintro ⟨core, ⟨i, line, rfl, hLine, hHolds⟩, rfl⟩
    obtain ⟨rfl, hSignificant⟩ := holds_iff.1 hHolds
    have hSame := hTrimmed i
    rw [hLine, Option.map_some] at hSame
    obtain ⟨line', hLine', hTrim⟩ := Option.map_eq_some_iff.1 hSame
    exact ⟨i, line', rfl, hLine', by rw [hTrim, hSignificant], by rw [hTrim]⟩

/-- **The first significant line that is no formula is reported**, with its number among all
lines. -/
theorem parse_eq_error_iff_holdsAt {text : String} {ls : List (List Char)}
    (hLines : InLines text.toList ls) {e : Error} :
    parse text = .error e ↔
      ∃ core, HoldsAt ls e.line core ∧ Connectives.parse (String.ofList core) = .error e.fault ∧
        ∀ n < e.line, ∀ core', HoldsAt ls n core' →
          ∃ f, Connectives.parse (String.ofList core') = .ok f := by
  rw [parse_eq_error_iff]
  simp only [lineAt_iff hLines]
  constructor
  · rintro ⟨_, ⟨core, hCore, rfl⟩, hFault, hFirst⟩
    exact ⟨core, hCore, hFault, fun n hn core' hCore' => hFirst n hn _ ⟨core', hCore', rfl⟩⟩
  · rintro ⟨core, hCore, hFault, hFirst⟩
    refine ⟨_, ⟨core, hCore, rfl⟩, hFault, ?_⟩
    rintro n hn _ ⟨core', hCore', rfl⟩
    exact hFirst n hn core' hCore'

-- ---------------------------------------------------------------------------
-- Editing blank lines and comments
-- ---------------------------------------------------------------------------

/-- The second lines come of the first ones by inserting and removing blank lines and comments, and
by indenting lines anew. -/
inductive Edits : List (List Char) → List (List Char) → Prop
  | nil : Edits [] []
  | insert {line : List Char} {ls ls' : List (List Char)} :
      Idle line → Edits ls ls' → Edits ls (line :: ls')
  | remove {line : List Char} {ls ls' : List (List Char)} :
      Idle line → Edits ls ls' → Edits (line :: ls) ls'
  | indent {line line' core : List Char} {ls ls' : List (List Char)} :
      TrimsTo line core → TrimsTo line' core → Edits ls ls' → Edits (line :: ls) (line' :: ls')

/-- **The significant lines stay the same** when blank lines and comments are edited. -/
theorem Edits.significantTexts_eq {ls ls' : List (List Char)} (h : Edits ls ls') :
    significantTexts ls = significantTexts ls' := by
  induction h with
  | nil => rfl
  | insert hIdle _ ih => rw [significantTexts_cons_of_idle hIdle, ih]
  | remove hIdle _ ih => rw [significantTexts_cons_of_idle hIdle, ih]
  | @indent line line' core ls ls' hCore hCore' _ ih =>
    have hSame : trimBlanks line = trimBlanks line' :=
      hCore.trimBlanks_eq.trans hCore'.trimBlanks_eq.symm
    rcases idle_or_holds line with hIdle | ⟨core, hHolds⟩
    · have hIdle' : Idle line' := idle_iff.2 (hSame ▸ idle_iff.1 hIdle)
      rw [significantTexts_cons_of_idle hIdle, significantTexts_cons_of_idle hIdle', ih]
    · have hHolds' : Holds line' core := holds_iff.2 (hSame ▸ holds_iff.1 hHolds)
      rw [significantTexts_cons_of_holds hHolds, significantTexts_cons_of_holds hHolds', ih]

/-- So the same formulas are read, or the same is wrong with the first line that is none. -/
theorem mapError_fault_parse_of_edits {text text' : String} {ls ls' : List (List Char)}
    (hLines : InLines text.toList ls) (hLines' : InLines text'.toList ls') (hEdits : Edits ls ls') :
    (parse text).mapError Error.fault = (parse text').mapError Error.fault := by
  rw [mapError_fault_parse hLines, mapError_fault_parse hLines', hEdits.significantTexts_eq]

-- ---------------------------------------------------------------------------
-- Writing formulas down
-- ---------------------------------------------------------------------------

/-- The formulas stand on the lines in their order, each printed in a script and indented by blanks,
with blank lines and comments in between. -/
inductive Writes : List Formula → List (List Char) → Prop
  | nil : Writes [] []
  | idle {line : List Char} {fs : List Formula} {ls : List (List Char)} :
      Idle line → Writes fs ls → Writes fs (line :: ls)
  | formula (script : Script) {front back : List Char} {f : Formula} {fs : List Formula}
      {ls : List (List Char)} :
      (∀ c ∈ front, isBlank c = true) → (∀ c ∈ back, isBlank c = true) → Writes fs ls →
        Writes (f :: fs) ((front ++ ((f.render script).toList ++ back)) :: ls)

private theorem slash_not_mem_spellings : ∀ e ∈ spellings, '/' ∉ e.1.toList := by
  decide +kernel

/-- A printed formula is no comment. -/
theorem not_slashes_prefix_render (script : Script) {f : Formula}
    (hNames : ∀ v ∈ f.vars, ReadableName v) : ¬ ['/', '/'] <+: (f.render script).toList := by
  intro hPrefix
  have hWord : ∀ c, continuesWord c = true → c ≠ '/' := by
    rintro c hContinues rfl
    exact absurd hContinues (by decide)
  have hTable : ∀ e ∈ spellings, ∀ c ∈ e.1.toList, c ≠ '/' := by
    rintro e he c hc rfl
    exact slash_not_mem_spellings e he hc
  have hNone := forall_mem_render (by decide) (fun cs t hSpells =>
    hSpells.forall_mem hTable hWord) script hNames
  exact hNone '/' (hPrefix.subset List.mem_cons_self) rfl

/-- **Formulas that are written down are read back.** -/
theorem Writes.lists {fs : List Formula} {ls : List (List Char)} (h : Writes fs ls)
    (hNames : ∀ f ∈ fs, ∀ v ∈ f.vars, ReadableName v) : Lists ls fs := by
  induction h with
  | nil => exact .nil
  | idle hIdle _ ih => exact .idle hIdle (ih hNames)
  | @formula script front back f fs ls hFront hBack _ ih =>
    obtain ⟨hFirst, hRest⟩ := List.forall_mem_cons.1 hNames
    have hTrims := (bareEnds_render script hFirst).trimsTo hFront hBack
    have hHolds : Holds _ (f.render script).toList :=
      ⟨hTrims, render_ne_nil script hFirst, not_slashes_prefix_render script hFirst⟩
    have hParse := (parse_render_eq_ok_iff script f).2 hFirst
    refine .formula hHolds ?_ (ih hRest)
    rw [String.ofList_toList, hParse]

-- ---------------------------------------------------------------------------
-- Listings
-- ---------------------------------------------------------------------------

/-- **A listing is read by its significant lines.** Every text has lines, with either line end. If all
significant ones are formulas, these are read in their order; otherwise the first one that is none is
reported by its number among all lines, with its own fault. So blank lines and comments can be
inserted, removed and indented anew, and formulas that are written down one to a line are read
back. -/
theorem reads_significant_lines :
    (∀ text : String, ∃ ls, InLines text.toList ls) ∧
      (∀ (text : String) (ls : List (List Char)), InLines text.toList ls →
        (∀ fs, parse text = .ok fs ↔ Lists ls fs) ∧
        ∀ e : Error, parse text = .error e ↔
          ∃ core, HoldsAt ls e.line core ∧ Connectives.parse (String.ofList core) = .error e.fault ∧
            ∀ n < e.line, ∀ core', HoldsAt ls n core' →
              ∃ f, Connectives.parse (String.ofList core') = .ok f) ∧
      (∀ e : Error, e.messages =
        [s!"failed to parse the formula on line {e.line}", e.fault.message]) ∧
      (∀ (text text' : String) (ls ls' : List (List Char)), InLines text.toList ls →
        InLines text'.toList ls' → Edits ls ls' →
          (∀ fs, parse text = .ok fs ↔ parse text' = .ok fs) ∧
          (parse text).mapError Error.fault = (parse text').mapError Error.fault) ∧
      ∀ (text : String) (ls : List (List Char)) (fs : List Formula), InLines text.toList ls →
        Writes fs ls → (∀ f ∈ fs, ∀ v ∈ f.vars, ReadableName v) → parse text = .ok fs := by
  refine ⟨fun text => ⟨_, Text.inLines_lines text.toList⟩, ?_, fun _ => rfl, ?_, ?_⟩
  · intro text ls hLines
    exact ⟨fun fs => parse_eq_ok_iff_lists hLines, fun e => parse_eq_error_iff_holdsAt hLines⟩
  · intro text text' ls ls' hLines hLines' hEdits
    have hSame := mapError_fault_parse_of_edits hLines hLines' hEdits
    refine ⟨fun fs => ?_, hSame⟩
    rw [← mapError_eq_ok_iff, hSame, mapError_eq_ok_iff]
  · intro text ls fs hLines hWrites hNames
    exact (parse_eq_ok_iff_lists hLines).2 (hWrites.lists hNames)

/-- Two formulas with an empty line, a comment and indentation, under both line ends, are read back;
without the empty line, the comment and the indentation they are the same formulas. In another text
the third line is at fault. -/
theorem reads_significant_lines_two_formulas :
    let fs : List Formula := [.binary .and (.var "p") (.var "q"), .not (.var "r")]
    let ls := ["p & q".toList, [], "  // c".toList, "\t~r ".toList]
    let ls' := ["p & q".toList, "~r".toList]
    InLines "p & q\r\n\n  // c\n\t~r ".toList ls ∧ Writes fs ls ∧
      parse "p & q\r\n\n  // c\n\t~r " = .ok fs ∧
      InLines "p & q\n~r\n".toList ls' ∧ Edits ls ls' ∧ parse "p & q\n~r\n" = .ok fs ∧
      ∃ fault, Connectives.parse ")" = .error fault ∧ parse "p\n\n )" = .error ⟨3, fault⟩ := by
  intro fs ls ls'
  obtain ⟨-, hReads, -, hEdited, hWritten⟩ := reads_significant_lines
  have hLines : InLines "p & q\r\n\n  // c\n\t~r ".toList ls :=
    @InLines.cons .returnFeed "p & q".toList _ _ (by decide) <|
      @InLines.cons .feed [] _ _ (by decide) <| @InLines.cons .feed "  // c".toList _ _ (by decide) <|
        @InLines.last "\t~r ".toList (by decide) (by decide)
  have hLines' : InLines "p & q\n~r\n".toList ls' :=
    @InLines.cons .feed "p & q".toList _ _ (by decide) <|
      @InLines.cons .feed "~r".toList _ _ (by decide) .nil
  have hNone : ∀ c ∈ ([] : List Char), isBlank c = true := nofun
  have hWrites : Writes fs ls :=
    .formula .ascii hNone hNone <| .idle (idle_iff.2 (by decide)) <|
      .idle (idle_iff.2 (by decide)) <|
        @Writes.formula .ascii ['\t'] [' '] _ _ _ (List.forall_mem_singleton.2 (by decide))
          (List.forall_mem_singleton.2 (by decide)) .nil
  have hTrims {line core : List Char} (h : trimBlanks line = core) : TrimsTo line core :=
    Text.trimBlanks_eq_iff.1 h
  have hEdits : Edits ls ls' :=
    .indent (hTrims rfl) (hTrims rfl) <| .remove (idle_iff.2 (by decide)) <|
      .remove (idle_iff.2 (by decide)) <| .indent (hTrims rfl) (hTrims (by decide)) .nil
  have hParse := hWritten _ ls fs hLines hWrites (by decide)
  have hFaulty : InLines "p\n\n )".toList ["p".toList, [], " )".toList] :=
    @InLines.cons .feed "p".toList _ _ (by decide) <| @InLines.cons .feed [] _ _ (by decide) <|
      @InLines.last " )".toList (by decide) (by decide)
  refine ⟨hLines, hWrites, hParse, hLines', hEdits,
    ((hEdited _ _ ls ls' hLines hLines' hEdits).1 fs).1 hParse, _, parse_rparen, ?_⟩
  refine ((hReads _ _ hFaulty).2 ⟨3, _⟩).2 ⟨")".toList, ⟨2, _, rfl, rfl, ?_⟩, parse_rparen, ?_⟩
  · exact holds_iff.2 ⟨by decide, by decide⟩
  · rintro n hn core ⟨i, line, rfl, hLine, hHolds⟩
    have hBelow : i + 1 < 3 := hn
    have hIndex : i = 0 ∨ i = 1 := by omega
    rcases hIndex with rfl | rfl
    · -- the first line is a formula
      cases hLine
      obtain ⟨rfl, -⟩ := holds_iff.1 hHolds
      exact ⟨.var "p", (parse_render_eq_ok_iff .ascii (.var "p")).2 (by decide)⟩
    · -- the second one is empty
      cases hLine
      obtain ⟨rfl, hSignificant⟩ := holds_iff.1 hHolds
      cases hSignificant

end Listing

end Connectives

import Connectives.Proofs.Grammar.ReadingOn
import Connectives.Proofs.Grammar.Viability

/-!
# Connectives — the first fault in reading order

A text that is no formula has a first place where this can be seen: a token with which no formula
goes on, a character that starts no token, or the end. The parser stops there and tells it. In the
first two cases nothing helps that comes later, so every text that goes on with a blank has the
same fault. At the end something always helps, since the tokens that were read are viable.

* `MisfitToken`, `MisfitAt`, `StrayAt`, `EndAt` — the three places, told by tokens and the grammar
  alone.
* `State.exists_stops`, `exists_place` — every text has one of them.
* `MisfitToken.append`, `StrayAt.append` — two of them stay when the text goes on with a blank.
* `MisfitAt.parse_eq`, `StrayAt.parse_eq`, `EndAt.parse_eq` — what the parser tells there.
* `parse_reports_first_fault` — the fault decided by what can and cannot come later.
-/

namespace Connectives

open Text (byteLength isBlank)

-- ---------------------------------------------------------------------------
-- Where reading can stop
-- ---------------------------------------------------------------------------

/-- Behind `before` stands the token `t`, spelled so. It is the first with which no formula goes on,
and the tokens `ts` come in front of it. -/
inductive MisfitToken : (text before spelled : List Char) → (ts : List Token) → (t : Token) → Prop
  | intro {front gap spelled rest : List Char} {ts : List Token} {t : Token} :
      LexesBefore (gap ++ (spelled ++ rest)) front ts → (∀ c ∈ gap, isBlank c = true) →
        LongestMatch (spelled ++ rest) spelled t → Viable ts → ¬ Viable (ts ++ [t]) →
        MisfitToken (front ++ (gap ++ (spelled ++ rest))) (front ++ gap) spelled ts t

/-- Behind `before` stands a token spelled so, and it is the first with which no formula goes on. -/
def MisfitAt (text before spelled : List Char) : Prop :=
  ∃ ts t, MisfitToken text before spelled ts t

/-- Behind `before` stands a character that starts no token, and some formula begins with all tokens
in front of it. -/
inductive StrayAt : (text before : List Char) → Prop
  | intro {front gap rest : List Char} {c : Char} {ts : List Token} :
      LexesBefore (gap ++ c :: rest) front ts → (∀ c ∈ gap, isBlank c = true) →
        isBlank c = false → (∀ spelled t, spelled <+: c :: rest → ¬ Spells spelled t) →
        Viable ts → StrayAt (front ++ (gap ++ c :: rest)) (front ++ gap)

/-- The text lexes into the tokens, some formula begins with them, and the last one ends where
`before` does. -/
inductive EndAt : (text before : List Char) → (ts : List Token) → Prop
  | intro {front gap : List Char} {ts : List Token} :
      LexesBefore gap front ts → (∀ c ∈ gap, isBlank c = true) → Viable ts →
        EndAt (front ++ gap) front ts

theorem MisfitToken.viable {text before spelled : List Char} {ts : List Token} {t : Token}
    (h : MisfitToken text before spelled ts t) : Viable ts := by
  cases h
  assumption

theorem MisfitToken.misfit {text before spelled : List Char} {ts : List Token} {t : Token}
    (h : MisfitToken text before spelled ts t) : ¬ Viable (ts ++ [t]) := by
  cases h
  assumption

theorem EndAt.viable {text before : List Char} {ts : List Token} (h : EndAt text before ts) :
    Viable ts := by
  cases h
  assumption

namespace State

/-- In the state the parser gets no further into the characters. -/
inductive Stops (s : State) : List Char → Prop
  | misfit {gap spelled rest : List Char} {t : Token} {expected : List TokenKind} :
      (∀ c ∈ gap, isBlank c = true) → LongestMatch (spelled ++ rest) spelled t →
        s.step t = .error expected → Stops s (gap ++ (spelled ++ rest))
  | stray {gap rest : List Char} {c : Char} :
      (∀ c ∈ gap, isBlank c = true) → isBlank c = false →
        (∀ spelled t, spelled <+: c :: rest → ¬ Spells spelled t) → Stops s (gap ++ c :: rest)
  | done {gap : List Char} : (∀ c ∈ gap, isBlank c = true) → Stops s gap

/-- The parser takes tokens from the front of every text until it stops. -/
theorem exists_stops (s : State) (cs : List Char) :
    ∃ front rest ts s', cs = front ++ rest ∧ LexesBefore rest front ts ∧ Reaches s ts s' ∧
      Stops s' rest := by
  induction cs using inductionOnReading generalizing s with
  | @stop gap rest hGap hHead hNone =>
    refine ⟨[], gap ++ rest, [], s, rfl, .nil, .refl s, ?_⟩
    cases rest with
    | nil =>
      rw [List.append_nil]
      exact .done hGap
    | cons c rest => exact .stray hGap (hHead c rfl) (first?_eq_none_iff.1 hNone)
  | @token gap spelled rest t hGap hMatch ih =>
    cases hStep : s.step t with
    | error expected =>
      exact ⟨[], gap ++ (spelled ++ rest), [], s, rfl, .nil, .refl s, .misfit hGap hMatch hStep⟩
    | ok s' =>
      obtain ⟨front, rest', ts, s'', rfl, hLexes, hReaches, hStops⟩ := ih s'
      exact ⟨gap ++ (spelled ++ front), rest', t :: ts, s'', by simp,
        .token hGap hMatch hLexes, .step hStep hReaches, hStops⟩

end State

/-- **Every text has a first fault or can go on at its end.** -/
theorem exists_place (cs : List Char) :
    (∃ before spelled, MisfitAt cs before spelled) ∨ (∃ before, StrayAt cs before) ∨
      ∃ before ts, EndAt cs before ts := by
  obtain ⟨front, rest, ts, s, rfl, hLexes, hReaches, hStops⟩ := State.exists_stops (.operand []) cs
  have hViable : Viable ts := viable_iff_reaches.2 ⟨s, hReaches⟩
  cases hStops with
  | misfit hGap hMatch hStep =>
    refine Or.inl ⟨_, _, _, _, .intro hLexes hGap hMatch hViable ?_⟩
    rw [viable_concat_iff hReaches, hStep]
    rintro ⟨s', hOk⟩
    cases hOk
  | stray hGap hChar hNone =>
    exact Or.inr (Or.inl ⟨_, .intro hLexes hGap hChar hNone hViable⟩)
  | done hGap => exact Or.inr (Or.inr ⟨_, _, .intro hLexes hGap hViable⟩)

-- ---------------------------------------------------------------------------
-- What the parser tells there
-- ---------------------------------------------------------------------------

/-- The text `full` is `text`, or goes on from it with a blank. -/
def GoesOn (text full : String) : Prop :=
  ∃ ds, BeginsBlank ds ∧ full.toList = text.toList ++ ds

theorem goesOn_self (text : String) : GoesOn text text :=
  ⟨[], beginsBlank_nil, (List.append_nil _).symm⟩

theorem toList_append_space (text more : String) :
    (text ++ " " ++ more).toList = text.toList ++ ' ' :: more.toList := by
  simp

theorem goesOn_space (text more : String) : GoesOn text (text ++ " " ++ more) :=
  ⟨' ' :: more.toList, beginsBlank_space _, toList_append_space text more⟩

/-- A fault that all texts have which go on from a text leaves no formula among them. -/
theorem not_parse_of_final {text : String} {fault : ParseError}
    (hFinal : ∀ full, GoesOn text full → parse full = .error fault) (more : String) (f : Formula) :
    parse (text ++ " " ++ more) ≠ .ok f := by
  rw [hFinal _ (goesOn_space text more)]
  nofun

theorem parse_of_read {text : String} {fault : Fault Nat} (h : read text.toList = .error fault) :
    parse text = .error (fault.map (LineIndex.ofSource text.toList).position) := by
  rw [parse, h]
  rfl

section Places

variable {cs before spelled : List Char} {ts : List Token}

-- Neither the tokens in front nor the fault itself change when the text goes on with a blank.
section Append

variable {ds : List Char} (hBlank : BeginsBlank ds)
include hBlank

theorem MisfitToken.append {t : Token} (h : MisfitToken cs before spelled ts t) :
    MisfitToken (cs ++ ds) before spelled ts t := by
  cases h with
  | intro hLexes hGap hMatch hViable hMisfit =>
    have hFront := hLexes.append hBlank
    have hMatch' := hMatch.append hBlank
    simp only [List.append_assoc] at hFront hMatch' ⊢
    exact .intro hFront hGap hMatch' hViable hMisfit

theorem StrayAt.append (h : StrayAt cs before) : StrayAt (cs ++ ds) before := by
  cases h with
  | intro hLexes hGap hChar hNone hViable =>
    have hFront := hLexes.append hBlank
    have hStray := not_spells_append hBlank hNone
    simp only [List.append_assoc, List.cons_append] at hFront hStray ⊢
    exact .intro hFront hGap hChar hStray hViable

end Append

variable {text : String} {s : State} {expected : List TokenKind}

/-- At a misfit the parser tells the token, and what the state lists in place of it. -/
theorem MisfitToken.parse_eq {t : Token} (h : MisfitToken text.toList before spelled ts t)
    (hReaches : State.Reaches (.operand []) ts s) (hStep : s.step t = .error expected) :
    parse text =
      .error (.unexpected (Position.after before) expected (String.ofList spelled)) := by
  generalize hText : text.toList = cs at h
  cases h with
  | @intro front gap spelled rest ts t hLexes hGap hMatch _ _ =>
    have hRead : read text.toList =
        .error (.unexpected (byteLength (front ++ gap)) expected (String.ofList spelled)) := by
      rw [hText, hLexes.read hReaches, State.readFrom_misfit _ hGap hMatch hStep,
        Text.byteLength_append]
    rw [parse_of_read hRead, Fault.map, hText, ← List.append_assoc, LineIndex.position_ofSource]

/-- And nothing that comes later helps. -/
theorem MisfitAt.parse_eq (h : MisfitAt text.toList before spelled) :
    ∃ expected, ∀ full, GoesOn text full →
      parse full =
        .error (.unexpected (Position.after before) expected (String.ofList spelled)) := by
  obtain ⟨ts, t, hToken⟩ := h
  obtain ⟨s, expected, hReaches, hStep⟩ := exists_step_error hToken.viable hToken.misfit
  refine ⟨expected, ?_⟩
  rintro full ⟨ds, hBlank, hFull⟩
  have hLater := hToken.append hBlank
  rw [← hFull] at hLater
  exact hLater.parse_eq hReaches hStep

/-- At a stray character the parser tells its place. -/
theorem StrayAt.parse_eq (h : StrayAt text.toList before) :
    parse text = .error (.invalid (Position.after before)) := by
  generalize hText : text.toList = cs at h
  cases h with
  | @intro front gap rest c ts hLexes hGap hChar hNone hViable =>
    obtain ⟨s, hReaches⟩ := viable_iff_reaches.1 hViable
    have hRead : read text.toList = .error (.invalid (byteLength (front ++ gap))) := by
      rw [hText, hLexes.read hReaches, State.readFrom_stray s _ hGap hChar hNone,
        Text.byteLength_append]
    rw [parse_of_read hRead, Fault.map, hText, ← List.append_assoc, LineIndex.position_ofSource]

/-- And nothing that comes later helps. -/
theorem StrayAt.parse_eq_of_goesOn (h : StrayAt text.toList before) {full : String}
    (hGoesOn : GoesOn text full) : parse full = .error (.invalid (Position.after before)) := by
  obtain ⟨ds, hBlank, hFull⟩ := hGoesOn
  have hLater := h.append hBlank
  rw [← hFull] at hLater
  exact hLater.parse_eq

theorem EndAt.lexes (h : EndAt text.toList before ts) : Lexes text.toList ts := by
  generalize text.toList = cs at h
  cases h with
  | intro hLexes hGap _ =>
    have hText := hLexes.lexes (.done hGap)
    rwa [List.append_nil] at hText

/-- At the end of a text that may not end there, the parser tells where the last token ended, and what
the state lists. -/
theorem EndAt.parse_eq_incomplete (h : EndAt text.toList before ts)
    (hReaches : State.Reaches (.operand []) ts s) (hFinish : s.finish = .error expected) :
    parse text = .error (.incomplete (Position.after before) expected) := by
  generalize hText : text.toList = cs at h
  cases h with
  | intro hLexes hGap _ =>
    have hRead : read text.toList = .error (.incomplete (byteLength before) expected) := by
      rw [hText, hLexes.read hReaches, State.readFrom_end s _ hGap, hFinish]
      rfl
    rw [parse_of_read hRead, Fault.map, hText, LineIndex.position_ofSource]

/-- At the end the parser has the formula, or the text may not end there. -/
theorem EndAt.parse_eq (h : EndAt text.toList before ts) :
    (∃ f, Derives .formula ts f ∧ parse text = .ok f) ∨
      (∀ f, ¬ Derives .formula ts f) ∧
        ∃ expected, parse text = .error (.incomplete (Position.after before) expected) := by
  by_cases hFormula : ∃ f, Derives .formula ts f
  · obtain ⟨f, hDerives⟩ := hFormula
    exact Or.inl ⟨f, hDerives, parse_eq_ok_iff.2 ⟨ts, h.lexes, hDerives⟩⟩
  · have hNone := not_exists.1 hFormula
    obtain ⟨s, expected, hReaches, hFinish⟩ := exists_finish_error h.viable hNone
    exact Or.inr ⟨hNone, expected, h.parse_eq_incomplete hReaches hFinish⟩

/-- At the end of a text something helps. -/
theorem EndAt.exists_parse (h : EndAt text.toList before ts) :
    ∃ more f, parse (text ++ " " ++ more) = .ok f := by
  generalize hText : text.toList = cs at h
  cases h with
  | @intro front gap ts hLexes hGap hViable =>
    obtain ⟨s, hReaches⟩ := viable_iff_reaches.1 hViable
    obtain ⟨s', f, hCompletion, hFinish⟩ := s.exists_reaches_completion
    obtain ⟨more, hMore⟩ := s.exists_lexes_completion
    -- the blank keeps the last token from growing into what ends the formula
    have hFront := hLexes.append (beginsBlank_space more)
    have hFull := hFront.lexes (hMore.space.blanks hGap)
    refine ⟨String.ofList more, f, parse_eq_ok_iff.2 ⟨ts ++ s.completion, ?_, ?_⟩⟩
    · rw [toList_append_space, hText, String.toList_ofList, List.append_assoc]
      exact hFull
    · exact (hReaches.trans hCompletion).derives hFinish

end Places

-- ---------------------------------------------------------------------------
-- The first fault
-- ---------------------------------------------------------------------------

/-- What the parser may answer, and why. -/
inductive Answers (text : String) : Except ParseError Formula → Prop
  | misfit {before spelled : List Char} {expected : List TokenKind} :
      MisfitAt text.toList before spelled →
        (∀ full, GoesOn text full → parse full =
          .error (.unexpected (Position.after before) expected (String.ofList spelled))) →
        Answers text (.error (.unexpected (Position.after before) expected (String.ofList spelled)))
  | stray {before : List Char} :
      StrayAt text.toList before →
        (∀ full, GoesOn text full → parse full = .error (.invalid (Position.after before))) →
        Answers text (.error (.invalid (Position.after before)))
  | formula {before : List Char} {ts : List Token} {f : Formula} :
      EndAt text.toList before ts → Derives .formula ts f → Answers text (.ok f)
  | incomplete {before : List Char} {ts : List Token} {expected : List TokenKind} :
      EndAt text.toList before ts → (∀ f, ¬ Derives .formula ts f) →
        Answers text (.error (.incomplete (Position.after before) expected))

/-- **The parser answers for the first fault, or for the whole text if there is none.** -/
theorem answers_parse (text : String) : Answers text (parse text) := by
  rcases exists_place text.toList with ⟨before, spelled, h⟩ | ⟨before, h⟩ | ⟨before, ts, h⟩
  · obtain ⟨expected, hParse⟩ := h.parse_eq
    rw [hParse text (goesOn_self text)]
    exact .misfit h hParse
  · rw [h.parse_eq]
    exact .stray h fun _ => h.parse_eq_of_goesOn
  · rcases h.parse_eq with ⟨f, hDerives, hParse⟩ | ⟨hNone, expected, hParse⟩
    · rw [hParse]
      exact .formula h hDerives
    · rw [hParse]
      exact .incomplete h hNone

theorem Answers.of_parse {text : String} {answer : Except ParseError Formula}
    (h : parse text = answer) : Answers text answer :=
  h ▸ answers_parse text

section

variable {text : String} {place : Position} {found : String}

theorem parse_eq_unexpected_iff :
    (∃ expected, parse text = .error (.unexpected place expected found)) ↔
      ∃ before spelled, MisfitAt text.toList before spelled ∧ place = Position.after before ∧
        found = String.ofList spelled := by
  constructor
  · rintro ⟨expected, hParse⟩
    cases Answers.of_parse hParse with
    | misfit h _ => exact ⟨_, _, h, rfl, rfl⟩
  · rintro ⟨before, spelled, h, rfl, rfl⟩
    obtain ⟨expected, hParse⟩ := h.parse_eq
    exact ⟨expected, hParse text (goesOn_self text)⟩

theorem parse_eq_invalid_iff :
    parse text = .error (.invalid place) ↔
      ∃ before, StrayAt text.toList before ∧ place = Position.after before := by
  constructor
  · intro hParse
    cases Answers.of_parse hParse with
    | stray h _ => exact ⟨_, h, rfl⟩
  · rintro ⟨before, h, rfl⟩
    exact h.parse_eq

theorem parse_eq_incomplete_iff :
    (∃ expected, parse text = .error (.incomplete place expected)) ↔
      ∃ before ts, EndAt text.toList before ts ∧ (∀ f, ¬ Derives .formula ts f) ∧
        place = Position.after before := by
  constructor
  · rintro ⟨expected, hParse⟩
    cases Answers.of_parse hParse with
    | incomplete h hNone => exact ⟨_, _, h, hNone, rfl⟩
  · rintro ⟨before, ts, h, hNone, rfl⟩
    rcases h.parse_eq with ⟨f, hDerives, -⟩ | ⟨-, hParse⟩
    · exact absurd hDerives (hNone f)
    · exact hParse

/-- A token after a whole formula is a misfit like any other. -/
theorem parse_ne_extra : parse text ≠ .error (.extra place found) := by
  intro hParse
  cases Answers.of_parse hParse

/-- A text without tokens ends before it has begun. -/
theorem parse_blank (h : Lexes text.toList []) :
    ∃ expected, parse text = .error (.incomplete ⟨1, 1⟩ expected) := by
  have hEmpty : ∀ f, ¬ Derives .formula [] f := by
    intro f hDerives
    obtain ⟨s, hReaches, hFinish⟩ := State.exists_reaches_of_derives hDerives
    cases hReaches
    cases hFinish
  have hEnd : EndAt text.toList [] [] := by
    generalize text.toList = cs at h
    cases h with
    | done hGap => exact EndAt.intro .nil hGap ⟨[.top], .top, Derives.top.loosen (by decide)⟩
  exact parse_eq_incomplete_iff.2 ⟨[], [], hEnd, hEmpty, rfl⟩

/-- The parser tells that a text is incomplete just if it is no formula but begins one. -/
theorem parse_incomplete_iff_begins :
    (∃ place expected, parse text = .error (.incomplete place expected)) ↔
      (∀ f, parse text ≠ .ok f) ∧ ∃ more f, parse (text ++ " " ++ more) = .ok f := by
  have hAnswers := answers_parse text
  constructor
  · rintro ⟨place, expected, hParse⟩
    rw [hParse] at hAnswers ⊢
    cases hAnswers with
    | incomplete h _ => exact ⟨nofun, h.exists_parse⟩
  · rintro ⟨hNot, more, f, hMore⟩
    generalize parse text = answer at hAnswers hNot
    cases hAnswers with
    | misfit _ hFinal | stray _ hFinal => exact absurd hMore (not_parse_of_final hFinal more f)
    | formula _ _ => exact absurd rfl (hNot _)
    | incomplete _ _ => exact ⟨_, _, rfl⟩

/-- A misfit or a stray character is what nothing helps against that comes later. -/
theorem parse_rejects_iff_begins_none :
    ((∃ place expected found, parse text = .error (.unexpected place expected found)) ∨
        ∃ place, parse text = .error (.invalid place)) ↔
      ∀ more f, parse (text ++ " " ++ more) ≠ .ok f := by
  constructor
  · intro hRejected
    rcases hRejected with ⟨place, expected, found, hParse⟩ | ⟨place, hParse⟩
    · cases Answers.of_parse hParse with
      | misfit _ hFinal => exact not_parse_of_final hFinal
    · cases Answers.of_parse hParse with
      | stray _ hFinal => exact not_parse_of_final hFinal
  · intro hNever
    have hAnswers := answers_parse text
    generalize parse text = answer at hAnswers
    cases hAnswers with
    | misfit _ _ => exact Or.inl ⟨_, _, _, rfl⟩
    | stray _ _ => exact Or.inr ⟨_, rfl⟩
    | formula h _ | incomplete h _ =>
      obtain ⟨more, f, hMore⟩ := h.exists_parse
      exact absurd hMore (hNever more f)

/-- And its fault stays the same whatever comes later. -/
theorem parse_append_of_begins_none (hNever : ∀ more f, parse (text ++ " " ++ more) ≠ .ok f)
    (more : String) : parse (text ++ " " ++ more) = parse text := by
  have hAnswers := answers_parse text
  generalize hParse : parse text = answer at hAnswers
  cases hAnswers with
  | misfit _ hFinal | stray _ hFinal => exact hFinal _ (goesOn_space text more)
  | formula h _ | incomplete h _ =>
    obtain ⟨more', f, hMore⟩ := h.exists_parse
    exact absurd hMore (hNever more' f)

end

/-- A parenthesis that closes nothing is found where a formula is to begin. -/
theorem parse_rparen : parse ")" = .error (.unexpected ⟨1, 1⟩ operandKinds ")") := by
  have hParen : LongestMatch ([')'] ++ []) [')'] .rparen :=
    spells_rparen.longestMatch fun hWord => absurd hWord (by decide)
  have hGap : ∀ c ∈ ([] : List Char), Text.isBlank c = true := nofun
  have hRead : read ")".toList = .error (.unexpected 0 operandKinds ")") :=
    State.readFrom_misfit 0 hGap hParen rfl
  rw [parse_of_read hRead]
  rfl

/-- **The kind of fault is decided by the first one in reading order.** A text that is no formula
is incomplete just if it can go on to one. Otherwise its fault is there for good: it is the first
token with which no formula goes on, or a character before it that starts none. An incomplete text
is told where its last token ends, and no token is ever said to be one too many. -/
theorem parse_reports_first_fault (text : String) :
    ((∃ place expected, parse text = .error (.incomplete place expected)) ↔
        (∀ f, parse text ≠ .ok f) ∧ ∃ more f, parse (text ++ " " ++ more) = .ok f) ∧
      (((∃ place expected found, parse text = .error (.unexpected place expected found)) ∨
          ∃ place, parse text = .error (.invalid place)) ↔
        ∀ more f, parse (text ++ " " ++ more) ≠ .ok f) ∧
      ((∀ more f, parse (text ++ " " ++ more) ≠ .ok f) →
        ∀ more, parse (text ++ " " ++ more) = parse text) ∧
      (∀ place found, (∃ expected, parse text = .error (.unexpected place expected found)) ↔
        ∃ before spelled, MisfitAt text.toList before spelled ∧ place = Position.after before ∧
          found = String.ofList spelled) ∧
      (∀ place, parse text = .error (.invalid place) ↔
        ∃ before, StrayAt text.toList before ∧ place = Position.after before) ∧
      (∀ place, (∃ expected, parse text = .error (.incomplete place expected)) ↔
        ∃ before ts, EndAt text.toList before ts ∧ (∀ f, ¬ Derives .formula ts f) ∧
          place = Position.after before) ∧
      (Lexes text.toList [] → ∃ expected, parse text = .error (.incomplete ⟨1, 1⟩ expected)) ∧
      ∀ place found, parse text ≠ .error (.extra place found) :=
  ⟨parse_incomplete_iff_begins, parse_rejects_iff_begins_none, parse_append_of_begins_none,
    fun _ _ => parse_eq_unexpected_iff, fun _ => parse_eq_invalid_iff,
    fun _ => parse_eq_incomplete_iff, parse_blank, fun _ _ => parse_ne_extra⟩

/-- Nothing helps a closing parenthesis too many, in column 3; no text at all ends in column 1. -/
theorem parse_reports_first_fault_rparen :
    (∃ expected, ∀ more,
        parse ("p )" ++ " " ++ more) = .error (.unexpected ⟨1, 3⟩ expected ")")) ∧
      ∃ expected, parse "" = .error (.incomplete ⟨1, 1⟩ expected) := by
  have hReaches : State.Reaches (.operand []) [.var "p"] (.operator [] (.var "p")) :=
    .single rfl
  have hMisfit : ¬ Viable ([.var "p"] ++ [.rparen]) := by
    rw [viable_concat_iff hReaches]
    rintro ⟨s, hStep⟩
    cases hStep
  have hSpace : ∀ c ∈ [' '], isBlank c = true := by
    intro c hMem
    rw [List.mem_singleton.1 hMem]
    decide
  have hVar : LongestMatch ("p".toList ++ ([] ++ [' ', ')'])) "p".toList (.var "p") :=
    (spells_var (by decide)).longestMatch fun _ => endsWord_space _
  have hFront : LexesBefore [' ', ')'] ['p'] [.var "p"] :=
    @LexesBefore.token _ [] _ _ _ _ nofun hVar .nil
  have hParen : LongestMatch ([')'] ++ []) [')'] .rparen :=
    spells_rparen.longestMatch fun hWord => absurd hWord (by decide)
  have hPlace : MisfitAt "p )".toList ['p', ' '] [')'] :=
    ⟨_, _, .intro hFront hSpace hParen (viable_iff_reaches.2 ⟨_, hReaches⟩) hMisfit⟩
  obtain ⟨expected, hParse⟩ :=
    ((parse_reports_first_fault "p )").2.2.2.1 ⟨1, 3⟩ ")").2 ⟨_, _, hPlace, rfl, rfl⟩
  have hNever := (parse_reports_first_fault "p )").2.1.1 (Or.inl ⟨_, _, _, hParse⟩)
  refine ⟨⟨expected, fun more => ?_⟩, ?_⟩
  · rw [(parse_reports_first_fault "p )").2.2.1 hNever more, hParse]
  · exact (parse_reports_first_fault "").2.2.2.2.2.2.1 .nil

end Connectives

import Connectives.Proofs.Grammar.FirstFault

/-!
# Connectives — what is listed as expected

Together with a fault the parser lists the kinds of token that it expected in its place. Where an operand
is wanted, these are the kinds of exactly the tokens that could have come. Behind a complete operand
the list is made from less than what has been read: it says that a parenthesis may be closed also where
none is open, and where a closing parenthesis or the end of the text is what is wrong, connectives are
left out.

Which of these is the case is seen from the last token. Whether a token can come at all is a question
to the state that the parser is in, and what a state takes is told by kinds.

* `State.step_operand_iff`, `State.step_operator_iff` — the tokens that a state takes.
* `State.Reaches.hasOperand_eq` — the last token tells which kind of state it is.
* `Expects` — what is listed, by the tokens in front of the fault.
* `expected_by_last_token` — it is what the parser lists, for every text.
-/

namespace Connectives

open Text (isBlank)

-- ---------------------------------------------------------------------------
-- The tokens that a state takes
-- ---------------------------------------------------------------------------

/-- Every kind of token has a spelling. -/
theorem mem_kinds {kind : TokenKind} (h : kind ≠ .unknown) : kind ∈ spellings.map (·.2) := by
  cases kind with
  | binary op => cases op <;> decide
  | unknown => exact absurd rfl h
  | lparen | rparen | top | bottom | not | var => decide

/-- The kinds that are listed where an operand is wanted are those that start one. -/
theorem mem_operandKinds {kind : TokenKind} :
    kind ∈ operandKinds ↔ kind.startsOperand = true := by
  rw [operandKinds, List.mem_filter, and_iff_right_iff_imp]
  intro hStarts
  refine mem_kinds ?_
  rintro rfl
  cases hStarts

/-- The kinds that are listed behind an operand are those that follow one somewhere. -/
theorem mem_operatorKinds {kind : TokenKind} :
    kind ∈ operatorKinds ↔ kind.followsOperand = true := by
  rw [operatorKinds, List.mem_filter, and_iff_right_iff_imp]
  intro hFollows
  refine mem_kinds ?_
  rintro rfl
  cases hFollows

namespace State

/-- A complete operand has been read. -/
def hasOperand : State → Bool
  | operand _ => false
  | operator _ _ => true

@[simp] theorem hasOperand_operand (stack : List Frame) : (operand stack).hasOperand = false := rfl

@[simp] theorem hasOperand_operator (stack : List Frame) (f : Formula) :
    (operator stack f).hasOperand = true := rfl

@[simp] theorem hasOperand_closeNegations (stack : List Frame) (f : Formula) :
    (closeNegations stack f).hasOperand = true := by
  obtain ⟨st, g, hClose, -⟩ := exists_closeNegations stack f
  rw [hClose, hasOperand_operator]

@[simp] theorem hasOperand_openBinary (op : BinaryOp) (stack : List Frame) (f : Formula) :
    (openBinary op stack f).hasOperand = false := by
  induction stack generalizing f with
  | nil => rfl
  | cons frame stack ih =>
    cases frame with
    | paren | not => rfl
    | left next g =>
      rw [openBinary]
      split
      · exact ih _
      · rfl

/-- Where an operand is wanted, a token that starts one is taken, and no other. -/
theorem step_operand_iff {stack : List Frame} {t : Token} :
    (∃ s, (operand stack).step t = .ok s) ↔ t.kind.startsOperand = true := by
  cases t <;> simp [step, Token.kind, TokenKind.startsOperand]

theorem step_operand_error {stack : List Frame} {t : Token} {expected : List TokenKind}
    (h : (operand stack).step t = .error expected) : expected = operandKinds := by
  cases t <;> cases h <;> rfl

/-- Behind an operand a connective is taken, and a closing parenthesis that closes one. -/
theorem step_operator_iff {stack : List Frame} {f : Formula} {t : Token} :
    (∃ s, (operator stack f).step t = .ok s) ↔
      (∃ op, t = .binary op) ∨ t = .rparen ∧ ∃ g outer, closeBinaries stack f = (g, some outer) := by
  cases t with
  | binary op => simp [step]
  | rparen =>
    cases hClose : closeBinaries stack f with
    | mk g outer? => cases outer? <;> simp [step, hClose]
  | lparen | top | bottom | not | var => simp [step]

/-- A closing parenthesis that closes nothing is told with an empty list, and any other token that is
wrong behind an operand with all the kinds that may come there. -/
theorem step_operator_error {stack : List Frame} {f : Formula} {t : Token}
    {expected : List TokenKind} (h : (operator stack f).step t = .error expected) :
    (t = .rparen ∧ expected = []) ∨ t ≠ .rparen ∧ expected = operatorKinds := by
  cases t with
  | binary op => cases h
  | rparen =>
    rw [step] at h
    split at h
    · cases h
    · cases h
      exact Or.inl ⟨rfl, rfl⟩
  | lparen | top | bottom | not | var =>
    cases h
    exact Or.inr ⟨by simp, rfl⟩

end State

-- ---------------------------------------------------------------------------
-- The last token
-- ---------------------------------------------------------------------------

/-- Whether an operand can end with the token. -/
def Token.endsOperand : Token → Bool
  | .rparen | .top | .bottom | .var _ => true
  | .lparen | .not | .binary _ => false

/-- The last of the tokens ends an operand. -/
def EndsOperand (ts : List Token) : Prop :=
  ∃ t ∈ ts.getLast?, t.endsOperand = true

namespace State

/-- After a token that ends an operand there is one, and after any other an operand is wanted. -/
theorem hasOperand_of_step {s s' : State} {t : Token} (h : s.step t = .ok s') :
    s'.hasOperand = t.endsOperand := by
  cases s with
  | operand stack => cases t <;> cases h <;> simp [Token.endsOperand]
  | operator stack f =>
    cases t with
    | binary op =>
      cases h
      exact hasOperand_openBinary op stack f
    | rparen =>
      rw [step] at h
      split at h
      · cases h
        simp [Token.endsOperand]
      · cases h
    | lparen | top | bottom | not | var => cases h

/-- **The last token tells which kind of state it is.** -/
theorem Reaches.hasOperand_eq {s s' : State} {ts : List Token} (h : Reaches s ts s') :
    s'.hasOperand = (ts.getLast?.map Token.endsOperand).getD s.hasOperand := by
  induction h with
  | refl s => rfl
  | @step s s' s'' t ts hStep _ ih =>
    rw [ih, hasOperand_of_step hStep, List.getLast?_cons]
    cases ts.getLast? <;> rfl

theorem Reaches.hasOperand_iff {s : State} {ts : List Token} (h : Reaches (.operand []) ts s) :
    s.hasOperand = true ↔ EndsOperand ts := by
  rw [h.hasOperand_eq, EndsOperand]
  cases ts.getLast? <;> simp

end State

-- ---------------------------------------------------------------------------
-- What is listed
-- ---------------------------------------------------------------------------

/-- A token of the kind can come next: some formula begins with the tokens and with it. -/
def CanFollow (ts : List Token) (kind : TokenKind) : Prop :=
  ∃ t, t.kind = kind ∧ Viable (ts ++ [t])

/-- What is listed behind the tokens, in place of the next token or of the end of the text. -/
inductive Expects (ts : List Token) : Option Token → List TokenKind → Prop
  | operand {next : Option Token} {expected : List TokenKind} :
      ¬ EndsOperand ts → (∀ kind, kind ∈ expected ↔ CanFollow ts kind) →
        Expects ts next expected
  | operator {t : Token} {expected : List TokenKind} :
      EndsOperand ts → t ≠ .rparen →
        (∀ kind, kind ∈ expected ↔ kind = .rparen ∨ CanFollow ts kind) →
        Expects ts (some t) expected
  | unmatched : EndsOperand ts → Expects ts (some .rparen) []
  | unclosed : EndsOperand ts → Expects ts none [.rparen]

section Reached

variable {ts : List Token} {s : State} (hReaches : State.Reaches (.operand []) ts s)
include hReaches

theorem canFollow_iff {kind : TokenKind} :
    CanFollow ts kind ↔ ∃ t, t.kind = kind ∧ ∃ s', s.step t = .ok s' := by
  simp only [CanFollow, viable_concat_iff hReaches]

theorem mem_operandKinds_iff_canFollow {stack : List Frame} (hState : s = .operand stack)
    (kind : TokenKind) : kind ∈ operandKinds ↔ CanFollow ts kind := by
  subst hState
  simp only [canFollow_iff hReaches, State.step_operand_iff, mem_operandKinds]
  constructor
  · intro hStarts
    have hToken : ∃ t : Token, t.kind = kind := by
      cases kind with
      | lparen => exact ⟨.lparen, rfl⟩
      | top => exact ⟨.top, rfl⟩
      | bottom => exact ⟨.bottom, rfl⟩
      | not => exact ⟨.not, rfl⟩
      | var => exact ⟨.var "p", rfl⟩
      | rparen | binary _ | unknown => cases hStarts
    obtain ⟨t, rfl⟩ := hToken
    exact ⟨t, rfl, hStarts⟩
  · rintro ⟨t, rfl, hStarts⟩
    exact hStarts

theorem mem_operatorKinds_iff_canFollow {stack : List Frame} {f : Formula}
    (hState : s = .operator stack f) (kind : TokenKind) :
    kind ∈ operatorKinds ↔ kind = .rparen ∨ CanFollow ts kind := by
  subst hState
  simp only [canFollow_iff hReaches, State.step_operator_iff, mem_operatorKinds]
  constructor
  · intro hFollows
    cases kind with
    | rparen => exact Or.inl rfl
    | binary op => exact Or.inr ⟨.binary op, rfl, Or.inl ⟨op, rfl⟩⟩
    | lparen | top | bottom | not | var | unknown => cases hFollows
  · rintro (rfl | ⟨t, rfl, ⟨op, rfl⟩ | ⟨rfl, -⟩⟩)
    · rfl
    · rfl
    · rfl

/-- What the state lists when it cannot take a token. -/
theorem expects_of_step {t : Token} {expected : List TokenKind}
    (hStep : s.step t = .error expected) : Expects ts (some t) expected := by
  have hEnds := hReaches.hasOperand_iff
  cases s with
  | operand stack =>
    obtain rfl := State.step_operand_error hStep
    exact .operand (by simpa using hEnds) (mem_operandKinds_iff_canFollow hReaches rfl)
  | operator stack f =>
    have hOperand : EndsOperand ts := by simpa using hEnds
    rcases State.step_operator_error hStep with ⟨rfl, rfl⟩ | ⟨hOther, rfl⟩
    · exact .unmatched hOperand
    · exact .operator hOperand hOther (mem_operatorKinds_iff_canFollow hReaches rfl)

/-- What the state lists when the text may not end. -/
theorem expects_of_finish {expected : List TokenKind} (hFinish : s.finish = .error expected) :
    Expects ts none expected := by
  have hEnds := hReaches.hasOperand_iff
  cases s with
  | operand stack =>
    cases hFinish
    exact .operand (by simpa using hEnds) (mem_operandKinds_iff_canFollow hReaches rfl)
  | operator stack f =>
    have hOperand : EndsOperand ts := by simpa using hEnds
    rw [State.finish] at hFinish
    split at hFinish
    · cases hFinish
      exact .unclosed hOperand
    · cases hFinish

end Reached

-- ---------------------------------------------------------------------------
-- What the parser lists
-- ---------------------------------------------------------------------------

section Places

variable {text : String} {before spelled : List Char} {ts : List Token}

/-- At a misfit the list is that of the state in which the parser got stuck. -/
theorem MisfitToken.exists_parse {t : Token} (h : MisfitToken text.toList before spelled ts t) :
    ∃ expected, Expects ts (some t) expected ∧
      parse text = .error (.unexpected (Position.after before) expected (String.ofList spelled)) := by
  obtain ⟨s, expected, hReaches, hStep⟩ := exists_step_error h.viable h.misfit
  exact ⟨expected, expects_of_step hReaches hStep, h.parse_eq hReaches hStep⟩

/-- At the end it is that of the state that the text leads to. -/
theorem EndAt.exists_parse_expects (h : EndAt text.toList before ts)
    (hNone : ∀ f, ¬ Derives .formula ts f) :
    ∃ expected, Expects ts none expected ∧
      parse text = .error (.incomplete (Position.after before) expected) := by
  obtain ⟨s, expected, hReaches, hFinish⟩ := exists_finish_error h.viable hNone
  exact ⟨expected, expects_of_finish hReaches hFinish, h.parse_eq_incomplete hReaches hFinish⟩

end Places

/-- **The list goes by the last token in front of the fault.** If that ends no operand, or there is
none, the kinds of exactly the tokens that can come are listed. If it ends one, then for a token other
than a closing parenthesis these are listed and the closing parenthesis too, whether one is open or
not; for a closing parenthesis nothing is listed, and for the end of the text just that. -/
theorem expected_by_last_token (text : String) :
    (∀ place expected found, parse text = .error (.unexpected place expected found) →
        ∃ before spelled ts t, MisfitToken text.toList before spelled ts t ∧
          place = Position.after before ∧ found = String.ofList spelled ∧
          Expects ts (some t) expected) ∧
      ∀ place expected, parse text = .error (.incomplete place expected) →
        ∃ before ts, EndAt text.toList before ts ∧ (∀ f, ¬ Derives .formula ts f) ∧
          place = Position.after before ∧ Expects ts none expected := by
  constructor
  · intro place expected found hParse
    obtain ⟨before, spelled, ⟨ts, t, hToken⟩, rfl, rfl⟩ :=
      parse_eq_unexpected_iff.1 ⟨expected, hParse⟩
    obtain ⟨listed, hExpects, hListed⟩ := hToken.exists_parse
    rw [hParse] at hListed
    cases hListed
    exact ⟨before, spelled, ts, t, hToken, rfl, rfl, hExpects⟩
  · intro place expected hParse
    obtain ⟨before, ts, hEnd, hNone, rfl⟩ := parse_eq_incomplete_iff.1 ⟨expected, hParse⟩
    obtain ⟨listed, hExpects, hListed⟩ := hEnd.exists_parse_expects hNone
    rw [hParse] at hListed
    cases hListed
    exact ⟨before, ts, hEnd, hNone, rfl, hExpects⟩

-- ---------------------------------------------------------------------------
-- Three faults behind an operand
-- ---------------------------------------------------------------------------

theorem reaches_var : State.Reaches (.operand []) [.var "p"] (.operator [] (.var "p")) :=
  .single rfl

theorem reaches_lparen_var :
    State.Reaches (.operand []) [.lparen, .var "p"] (.operator [.paren] (.var "p")) :=
  .step rfl (.single rfl)

/-- A variable, a space, and a token that cannot come behind a variable. -/
theorem misfit_behind_var {text : String} {spelled : List Char} {t : Token}
    {expected : List TokenKind} (hText : text.toList = 'p' :: ' ' :: spelled)
    (hMatch : LongestMatch (spelled ++ []) spelled t)
    (hStep : State.step (.operator [] (.var "p")) t = .error expected) :
    MisfitToken text.toList ['p', ' '] spelled [.var "p"] t ∧
      parse text = .error (.unexpected ⟨1, 3⟩ expected (String.ofList spelled)) := by
  have hSpace : ∀ c ∈ [' '], isBlank c = true := List.forall_mem_singleton.2 (by decide)
  have hVar : LongestMatch ("p".toList ++ ([] ++ ' ' :: (spelled ++ []))) "p".toList (.var "p") :=
    (spells_var (by decide)).longestMatch fun _ => endsWord_space _
  have hFront : LexesBefore ([' '] ++ (spelled ++ [])) ['p'] [.var "p"] :=
    @LexesBefore.token _ [] _ _ _ _ nofun hVar .nil
  have hMisfit : ¬ Viable ([.var "p"] ++ [t]) := by
    rw [viable_concat_iff reaches_var, hStep]
    rintro ⟨s, ⟨⟩⟩
  have hToken : MisfitToken text.toList ['p', ' '] spelled [.var "p"] t := by
    have hAll : text.toList = ['p'] ++ ([' '] ++ (spelled ++ [])) := by simp [hText]
    rw [hAll]
    exact .intro hFront hSpace hMatch (viable_iff_reaches.2 ⟨_, reaches_var⟩) hMisfit
  exact ⟨hToken, hToken.parse_eq reaches_var hStep⟩

theorem misfit_two_vars :
    MisfitToken "p q".toList ['p', ' '] ['q'] [.var "p"] (.var "q") ∧
      parse "p q" = .error (.unexpected ⟨1, 3⟩ operatorKinds "q") := by
  have hVar : LongestMatch ("q".toList ++ []) "q".toList (.var "q") :=
    (spells_var (by decide)).longestMatch fun _ => endsWord_nil
  exact misfit_behind_var rfl hVar rfl

theorem misfit_var_rparen :
    MisfitToken "p )".toList ['p', ' '] [')'] [.var "p"] .rparen ∧
      parse "p )" = .error (.unexpected ⟨1, 3⟩ [] ")") :=
  misfit_behind_var rfl (spells_rparen.longestMatch fun _ => endsWord_nil) rfl

theorem end_lparen_var :
    EndAt "(p".toList ['(', 'p'] [.lparen, .var "p"] ∧
      parse "(p" = .error (.incomplete ⟨1, 3⟩ [.rparen]) := by
  have hNone : ∀ c ∈ ([] : List Char), isBlank c = true := nofun
  have hVar : LongestMatch ("p".toList ++ ([] ++ [])) "p".toList (.var "p") :=
    (spells_var (by decide)).longestMatch fun _ => endsWord_nil
  have hParen : LongestMatch (['('] ++ (['p'] ++ [])) ['('] .lparen :=
    spells_lparen.longestMatch fun hWord => absurd hWord (by decide)
  have hFront : LexesBefore [] ['(', 'p'] [.lparen, .var "p"] :=
    @LexesBefore.token _ [] _ _ _ _ hNone hParen (@LexesBefore.token _ [] _ _ _ _ hNone hVar .nil)
  have hEnd : EndAt "(p".toList ['(', 'p'] [.lparen, .var "p"] :=
    .intro hFront hNone (viable_iff_reaches.2 ⟨_, reaches_lparen_var⟩)
  exact ⟨hEnd, hEnd.parse_eq_incomplete reaches_lparen_var rfl⟩

/-- Two variables in a row: the second one is the fault, and what is listed goes by the first. -/
theorem expected_by_last_token_two_vars :
    parse "p q" = .error (.unexpected ⟨1, 3⟩ operatorKinds "q") ∧
      ∃ before spelled ts t, MisfitToken "p q".toList before spelled ts t ∧
        (⟨1, 3⟩ : Position) = Position.after before ∧ Expects ts (some t) operatorKinds := by
  obtain ⟨-, hParse⟩ := misfit_two_vars
  obtain ⟨before, spelled, ts, t, hToken, hPlace, -, hExpects⟩ :=
    (expected_by_last_token "p q").1 _ _ _ hParse
  exact ⟨hParse, before, spelled, ts, t, hToken, hPlace, hExpects⟩

/-- Behind an operand a list may hold a kind that cannot come, and may lack kinds that can. Between two
variables a closing parenthesis is listed, which closes nothing. In place of one that closes nothing no
connective is listed, and none at the end of a text with an open parenthesis, though one could come. -/
theorem expected_behind_operand_inexact :
    (MisfitToken "p q".toList ['p', ' '] ['q'] [.var "p"] (.var "q") ∧
        parse "p q" = .error (.unexpected ⟨1, 3⟩ operatorKinds "q") ∧
        .rparen ∈ operatorKinds ∧ ¬ CanFollow [.var "p"] .rparen) ∧
      (MisfitToken "p )".toList ['p', ' '] [')'] [.var "p"] .rparen ∧
        parse "p )" = .error (.unexpected ⟨1, 3⟩ [] ")") ∧
        CanFollow [.var "p"] (.binary .and)) ∧
      EndAt "(p".toList ['(', 'p'] [.lparen, .var "p"] ∧
        parse "(p" = .error (.incomplete ⟨1, 3⟩ [.rparen]) ∧
        CanFollow [.lparen, .var "p"] (.binary .and) := by
  obtain ⟨hVars, hParseVars⟩ := misfit_two_vars
  obtain ⟨hClosing, hParseClosing⟩ := misfit_var_rparen
  obtain ⟨hEnd, hParseEnd⟩ := end_lparen_var
  have hNotClosing : ¬ CanFollow [.var "p"] .rparen := by
    rw [canFollow_iff reaches_var]
    rintro ⟨t, hKind, s, hStep⟩
    cases t <;> cases hKind
    cases hStep
  have hAnd : CanFollow [.var "p"] (.binary .and) :=
    (canFollow_iff reaches_var).2 ⟨.binary .and, rfl, _, rfl⟩
  have hAnd' : CanFollow [.lparen, .var "p"] (.binary .and) :=
    (canFollow_iff reaches_lparen_var).2 ⟨.binary .and, rfl, _, rfl⟩
  exact ⟨⟨hVars, hParseVars, by decide, hNotClosing⟩, ⟨hClosing, hParseClosing, hAnd⟩, hEnd,
    hParseEnd, hAnd'⟩

end Connectives

import Connectives.Proofs.Grammar.RoundTrip

/-!
# Connectives — tokens that can go on to a formula

The machine takes a token only if some formula begins with all that it has read by then. For
wherever it stands, the formula can be ended: an operand if one is wanted, and then a closing
parenthesis for each open one. So the machine gets stuck at the first token with which no formula
goes on.

* `Viable` — some formula begins with the tokens.
* `State.completion` — tokens that end the formula from a state on.
* `viable_iff_reaches` — the machine can take the tokens just if they are viable.
-/

namespace Connectives

/-- Some formula begins with the tokens. -/
def Viable (ts : List Token) : Prop :=
  ∃ us f, Derives .formula (ts ++ us) f

namespace State

-- ---------------------------------------------------------------------------
-- Open parentheses
-- ---------------------------------------------------------------------------

/-- Negations that are applied leave the open parentheses as they are. -/
theorem exists_closeNegations (stack : List Frame) (f : Formula) :
    ∃ st g, closeNegations stack f = .operator st g ∧ st.count .paren = stack.count .paren := by
  induction stack generalizing f with
  | nil => exact ⟨[], f, rfl, rfl⟩
  | cons frame stack ih =>
    cases frame with
    | not =>
      obtain ⟨st, g, hClose, hCount⟩ := ih (.not f)
      refine ⟨st, g, hClose, ?_⟩
      rw [hCount, List.count_cons_of_ne (by decide)]
    | paren => exact ⟨.paren :: stack, f, rfl, rfl⟩
    | left op l => exact ⟨.left op l :: stack, f, rfl, rfl⟩

/-- Closing takes the innermost open parenthesis away, if there is one. -/
theorem exists_closeBinaries (stack : List Frame) (f : Formula) :
    (∃ g outer, closeBinaries stack f = (g, some outer) ∧
      stack.count .paren = outer.count .paren + 1) ∨
    ∃ g, closeBinaries stack f = (g, none) ∧ stack.count .paren = 0 := by
  induction stack generalizing f with
  | nil => exact Or.inr ⟨f, rfl, rfl⟩
  | cons frame stack ih =>
    cases frame with
    | paren => exact Or.inl ⟨f, stack, rfl, List.count_cons_self⟩
    | not =>
      rw [List.count_cons_of_ne (by decide)]
      exact ih (.not f)
    | left op l =>
      have hLeft : (Frame.left op l :: stack).count .paren = stack.count .paren :=
        List.count_cons_of_ne (by nofun)
      rw [hLeft]
      exact ih (.binary op l f)

-- ---------------------------------------------------------------------------
-- Ending the formula
-- ---------------------------------------------------------------------------

/-- Behind an operand, closing every parenthesis ends the formula. -/
theorem exists_reaches_replicate (n : Nat) {stack : List Frame} (f : Formula)
    (hCount : stack.count .paren = n) :
    ∃ s g, Reaches (.operator stack f) (List.replicate n .rparen) s ∧ s.finish = .ok g := by
  induction n generalizing stack f with
  | zero =>
    rcases exists_closeBinaries stack f with ⟨g, outer, -, hOpen⟩ | ⟨g, hClose, -⟩
    · omega
    · exact ⟨_, g, .refl _, by rw [finish, hClose]⟩
  | succ n ih =>
    rcases exists_closeBinaries stack f with ⟨g, outer, hClose, hOpen⟩ | ⟨g, -, hNone⟩
    · obtain ⟨st, h, hNegations, hOuter⟩ := exists_closeNegations outer g
      have hStep : State.step (.operator stack f) .rparen = .ok (.operator st h) := by
        rw [State.step, hClose, ← hNegations]
      have hLess : st.count .paren = n := by omega
      obtain ⟨s, k, hReaches, hFinish⟩ := ih h hLess
      exact ⟨s, k, .step hStep hReaches, hFinish⟩
    · omega

/-- Tokens that end the formula: an operand if one is wanted, and then a closing parenthesis for
each open one. -/
def completion : State → List Token
  | operand stack => .top :: List.replicate (stack.count .paren) .rparen
  | operator stack _ => List.replicate (stack.count .paren) .rparen

/-- **From every state the formula can be ended.** -/
theorem exists_reaches_completion (s : State) :
    ∃ s' f, Reaches s s.completion s' ∧ s'.finish = .ok f := by
  cases s with
  | operator stack f => exact exists_reaches_replicate _ f rfl
  | operand stack =>
    obtain ⟨st, g, hNegations, hCount⟩ := exists_closeNegations stack .top
    obtain ⟨s', f, hReaches, hFinish⟩ := exists_reaches_replicate _ g hCount
    have hStep : State.step (.operand stack) .top = .ok (.operator st g) := by
      rw [State.step, hNegations]
    exact ⟨s', f, .step hStep hReaches, hFinish⟩

/-- The tokens that end a formula can be written down. -/
theorem exists_lexes_completion (s : State) : ∃ cs, Lexes cs s.completion := by
  have hClosing (n : Nat) : ∃ cs, Lexes cs (List.replicate n .rparen) := by
    induction n with
    | zero => exact ⟨[], .nil⟩
    | succ n ih =>
      obtain ⟨cs, hLexes⟩ := ih
      exact ⟨_, hLexes.spelled spells_rparen fun hWord => absurd hWord (by decide)⟩
  cases s with
  | operator stack f => exact hClosing _
  | operand stack =>
    obtain ⟨cs, hLexes⟩ := hClosing (stack.count .paren)
    have hTop := spells_connective .symbols .top
    exact ⟨_, hLexes.spelled hTop fun hWord => absurd hWord (by decide)⟩

/-- A run over tokens begins with a run over the first ones. -/
theorem Reaches.of_append {s s'' : State} {ts us : List Token} (h : Reaches s (ts ++ us) s'') :
    ∃ s', Reaches s ts s' ∧ Reaches s' us s'' := by
  induction ts generalizing s with
  | nil => exact ⟨s, .refl s, h⟩
  | cons t ts ih =>
    cases h with
    | step hStep hRest =>
      obtain ⟨s', hFirst, hSecond⟩ := ih hRest
      exact ⟨s', .step hStep hFirst, hSecond⟩

end State

-- ---------------------------------------------------------------------------
-- Viable tokens
-- ---------------------------------------------------------------------------

/-- **The machine can take the tokens just if some formula begins with them.** -/
theorem viable_iff_reaches {ts : List Token} :
    Viable ts ↔ ∃ s, State.Reaches (.operand []) ts s := by
  constructor
  · rintro ⟨us, f, hDerives⟩
    obtain ⟨s, hReaches, -⟩ := State.exists_reaches_of_derives hDerives
    obtain ⟨s', hFirst, -⟩ := hReaches.of_append
    exact ⟨s', hFirst⟩
  · rintro ⟨s, hReaches⟩
    obtain ⟨s', f, hCompletion, hFinish⟩ := s.exists_reaches_completion
    exact ⟨s.completion, f, (hReaches.trans hCompletion).derives hFinish⟩

/-- So the token at which the machine gets stuck is the one with which no formula goes on. -/
theorem viable_concat_iff {ts : List Token} {t : Token} {s : State}
    (h : State.Reaches (.operand []) ts s) :
    Viable (ts ++ [t]) ↔ ∃ s', s.step t = .ok s' := by
  rw [viable_iff_reaches]
  constructor
  · rintro ⟨s'', hReaches⟩
    obtain ⟨s', hFirst, hLast⟩ := hReaches.of_append
    rw [h.functional hFirst]
    cases hLast with
    | step hStep _ => exact ⟨_, hStep⟩
  · rintro ⟨s', hStep⟩
    exact ⟨s', h.trans (.single hStep)⟩

/-- Where a token does not go on from viable ones, they lead to a state that cannot take it. -/
theorem exists_step_error {ts : List Token} {t : Token} (h : Viable ts)
    (hMisfit : ¬ Viable (ts ++ [t])) :
    ∃ s expected, State.Reaches (.operand []) ts s ∧ s.step t = .error expected := by
  obtain ⟨s, hReaches⟩ := viable_iff_reaches.1 h
  rw [viable_concat_iff hReaches] at hMisfit
  cases hStep : s.step t with
  | ok s' => exact absurd ⟨s', hStep⟩ hMisfit
  | error expected => exact ⟨s, expected, hReaches, hStep⟩

/-- Where viable tokens are no formula, they lead to a state in which the text may not end. -/
theorem exists_finish_error {ts : List Token} (h : Viable ts)
    (hNone : ∀ f, ¬ Derives .formula ts f) :
    ∃ s expected, State.Reaches (.operand []) ts s ∧ s.finish = .error expected := by
  obtain ⟨s, hReaches⟩ := viable_iff_reaches.1 h
  cases hFinish : s.finish with
  | ok f => exact absurd (hReaches.derives hFinish) (hNone f)
  | error expected => exact ⟨s, expected, hReaches, hFinish⟩

end Connectives

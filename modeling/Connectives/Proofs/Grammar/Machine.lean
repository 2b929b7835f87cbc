import Connectives.Grammar.Parser
import Connectives.Proofs.Grammar.Derivation
import Connectives.Proofs.Results

/-!
# Connectives — runs of the parsing machine

The parser reads lexemes and stops at the first fault. What it accepts does not depend on places and
spellings, only on the tokens: a *run* is a sequence of steps, one for each token, and a text is
accepted if its run comes to a state in which the text may end.

Both directions of the argument about the machine, that it accepts only phrases and all phrases,
need to know when a phrase may be read above a stack. `Awaits` says so; it is a condition on the
innermost frame alone, and the grammar's table of operands decides it.

* `State.Reaches` — a run from one state to another.
* `State.run_eq_ok_iff` — the parser accepts when a run over all tokens may end.
* `takesBefore_eq_true_iff`, `takesBefore_eq_false_iff` — of the connectives at both sides of an
  operand, the one on the left takes it if its phrase may stand to the left of the other, and else
  the phrase of the other may stand to its right.
-/

namespace Connectives

namespace State

-- ---------------------------------------------------------------------------
-- Runs
-- ---------------------------------------------------------------------------

/-- The machine comes from one state to another by taking the tokens in turn. -/
inductive Reaches : State → List Token → State → Prop
  | refl (s : State) : Reaches s [] s
  | step {s s' s'' : State} {t : Token} {ts : List Token} :
      s.step t = .ok s' → Reaches s' ts s'' → Reaches s (t :: ts) s''

theorem Reaches.trans {s s' s'' : State} {ts us : List Token} (h : Reaches s ts s')
    (h' : Reaches s' us s'') : Reaches s (ts ++ us) s'' := by
  induction h with
  | refl s => exact h'
  | step hStep _ ih => exact .step hStep (ih h')

theorem Reaches.single {s s' : State} {t : Token} (h : s.step t = .ok s') : Reaches s [t] s' :=
  .step h (.refl s')

/-- The parser accepts when all of the text could be read and a run over its tokens may end. -/
theorem run_eq_ok_iff {stray : Option Nat} {s : State} {last : Nat} {ls : List Lexeme}
    {f : Formula} :
    run stray s last ls = .ok f ↔
      stray = none ∧ ∃ s', Reaches s (ls.map Lexeme.token) s' ∧ s'.finish = .ok f := by
  induction ls generalizing s last with
  | nil =>
    cases stray with
    | some place => simp [run]
    | none =>
      rw [run]
      constructor
      · intro h
        exact ⟨rfl, s, .refl s, mapError_eq_ok_iff.1 h⟩
      · rintro ⟨-, s', hReaches, hFinish⟩
        cases hReaches
        exact mapError_eq_ok_iff.2 hFinish
  | cons l ls ih =>
    rw [run, List.map_cons]
    constructor
    · intro h
      cases hStep : s.step l.token with
      | ok s' =>
        rw [hStep] at h
        obtain ⟨hStray, s'', hReaches, hFinish⟩ := ih.1 h
        exact ⟨hStray, s'', .step hStep hReaches, hFinish⟩
      | error e => rw [hStep] at h; cases h
    · rintro ⟨hStray, s'', hReaches, hFinish⟩
      cases hReaches with
      | step hStep hRest =>
        rw [hStep]
        exact ih.2 ⟨hStray, s'', hRest, hFinish⟩

-- ---------------------------------------------------------------------------
-- Where a phrase may be read
-- ---------------------------------------------------------------------------

/-- A phrase of the kind may be read above the stack: no negation waits for it, and a connective that
waits has it for a right operand. -/
def Awaits (n : Nonterminal) : List Frame → Prop
  | .not :: _ => False
  | .left op _ :: _ => op.rightOperand.strength ≤ n.strength
  | .paren :: _ | [] => True

theorem Awaits.tighten {n m : Nonterminal} {stack : List Frame} (h : Awaits n stack)
    (hnm : n.strength ≤ m.strength) : Awaits m stack := by
  cases stack with
  | nil => exact trivial
  | cons frame rest =>
    cases frame with
    | paren => exact trivial
    | not => exact h
    | left op f => exact Nat.le_trans h hnm

/-- Above a stack that awaits a phrase no negation is left to apply. -/
theorem Awaits.closeNegations {n : Nonterminal} {stack : List Frame} (h : Awaits n stack)
    (f : Formula) : closeNegations stack f = .operator stack f := by
  cases stack with
  | nil => rfl
  | cons frame rest =>
    cases frame with
    | not => exact h.elim
    | paren | left => rfl

/-- The left one of two connectives takes the operand between them if its phrase may stand to
the left of the other. -/
theorem takesBefore_eq_true_iff {op next : BinaryOp} :
    takesBefore op next = true ↔ next.leftOperand.strength ≤ op.phrase.strength := by
  cases op <;> cases next <;> decide

/-- Otherwise the phrase of the other one may stand to its right. -/
theorem takesBefore_eq_false_iff {op next : BinaryOp} :
    takesBefore op next = false ↔ op.rightOperand.strength ≤ next.phrase.strength := by
  cases op <;> cases next <;> decide

end State

end Connectives

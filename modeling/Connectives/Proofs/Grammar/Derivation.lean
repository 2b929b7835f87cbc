import Connectives.Grammar.Token

/-!
# Connectives — the grammar of formulas

The language that formulas are written in, as a context-free grammar over tokens. Each way to write
a formula is a production, and nothing is said about how a text is to be read.

| phrase      | written as                            |
|-------------|---------------------------------------|
| formula     | implication ⇔ formula                 |
| implication | disjunction → implication             |
| disjunction | disjunction ∨, ⊕ or ↓ conjunction     |
| conjunction | conjunction ∧ or ↑ negation           |
| negation    | ¬ negation                            |
| atomic      | ⊤, ⟘, a variable, or a formula in parentheses |

Every phrase but the last may also be a phrase of the next kind.

* `Derives` — the tokens are a phrase of a kind, and denote a formula.
* `Derives.loosen` — a tighter phrase may stand where a looser one is wanted.
-/

namespace Connectives

-- ---------------------------------------------------------------------------
-- Nonterminals
-- ---------------------------------------------------------------------------

/-- The kinds of phrase, from the loosest to the tightest. -/
inductive Nonterminal where
  | formula
  | implication
  | disjunction
  | conjunction
  | negation
  | atomic
  deriving DecidableEq, Repr

namespace Nonterminal

/-- The next tighter kind of phrase. -/
def tighter? : Nonterminal → Option Nonterminal
  | formula => some implication
  | implication => some disjunction
  | disjunction => some conjunction
  | conjunction => some negation
  | negation => some atomic
  | atomic => none

/-- How tightly a phrase holds together, on the scale on which connectives are measured. -/
def strength : Nonterminal → Nat
  | formula => 1
  | implication => 2
  | disjunction => 3
  | conjunction => 4
  | negation => Strength.negation
  | atomic => Strength.atom

theorem strength_of_tighter {n m : Nonterminal} (h : n.tighter? = some m) :
    m.strength = n.strength + 1 := by
  cases n <;> cases h <;> rfl

/-- Nothing is tighter than a phrase of the last kind. -/
theorem strength_le_of_tighter_none {n m : Nonterminal} (h : n.tighter? = none) :
    m.strength ≤ n.strength := by
  cases n <;> cases h
  cases m <;> decide

/-- The kinds from the loosest to the tightest. -/
theorem strength_formula_le (n : Nonterminal) : formula.strength ≤ n.strength := by
  cases n <;> decide

theorem strength_le_atomic (n : Nonterminal) : n.strength ≤ atomic.strength := by
  cases n <;> decide

theorem strength_injective {n m : Nonterminal} (h : n.strength = m.strength) : n = m := by
  cases n <;> cases m <;> first | rfl | cases h

end Nonterminal

namespace BinaryOp

/-- The kind of phrase that a binary connective makes. -/
def phrase : BinaryOp → Nonterminal
  | and | nand => .conjunction
  | or | xor | nor => .disjunction
  | implies => .implication
  | iff => .formula

/-- The kind of phrase that stands to the left of a binary connective. -/
def leftOperand : BinaryOp → Nonterminal
  | and | nand => .conjunction
  | or | xor | nor => .disjunction
  | implies => .disjunction
  | iff => .implication

/-- The kind of phrase that stands to the right of a binary connective. -/
def rightOperand : BinaryOp → Nonterminal
  | and | nand => .negation
  | or | xor | nor => .conjunction
  | implies => .implication
  | iff => .formula

end BinaryOp

-- ---------------------------------------------------------------------------
-- Derivations
-- ---------------------------------------------------------------------------

/-- The tokens are a phrase of the kind and denote the formula. -/
inductive Derives : Nonterminal → List Token → Formula → Prop
  | binary {op : BinaryOp} {l r : List Token} {f g : Formula} :
      Derives op.leftOperand l f → Derives op.rightOperand r g →
        Derives op.phrase (l ++ .binary op :: r) (.binary op f g)
  | tighter {n m : Nonterminal} {ts : List Token} {f : Formula} :
      n.tighter? = some m → Derives m ts f → Derives n ts f
  | not {ts : List Token} {f : Formula} :
      Derives .negation ts f → Derives .negation (.not :: ts) (.not f)
  | top : Derives .atomic [.top] .top
  | bottom : Derives .atomic [.bottom] .bottom
  | var {v : String} : Derives .atomic [.var v] (.var v)
  | paren {ts : List Token} {f : Formula} :
      Derives .formula ts f → Derives .atomic (.lparen :: ts ++ [.rparen]) f

/-- A tighter phrase may stand where a looser one is wanted. -/
theorem Derives.loosen {n m : Nonterminal} {ts : List Token} {f : Formula} (h : Derives m ts f)
    (hnm : n.strength ≤ m.strength) : Derives n ts f := by
  -- go down from the tighter kind to the looser one, a kind at a time
  obtain ⟨k, hk⟩ := Nat.le.dest hnm
  induction k generalizing n with
  | zero => exact Nonterminal.strength_injective (n := n) hk ▸ h
  | succ k ih =>
    cases hn : n.tighter? with
    | none =>
      have hMax := Nonterminal.strength_le_of_tighter_none (m := m) hn
      omega
    | some n' =>
      have hStrength := Nonterminal.strength_of_tighter hn
      exact .tighter hn (ih (by omega) (by omega))

-- ---------------------------------------------------------------------------
-- The phrase of a connective and its operands
-- ---------------------------------------------------------------------------

namespace BinaryOp

theorem strength_phrase (op : BinaryOp) : op.phrase.strength = op.strength := by
  cases op <;> rfl

theorem strength_phrase_le_leftOperand (op : BinaryOp) :
    op.phrase.strength ≤ op.leftOperand.strength := by
  cases op <;> decide

theorem strength_phrase_le_rightOperand (op : BinaryOp) :
    op.phrase.strength ≤ op.rightOperand.strength := by
  cases op <;> decide

theorem strength_leftOperand_le_negation (op : BinaryOp) :
    op.leftOperand.strength ≤ Nonterminal.negation.strength := by
  cases op <;> decide

theorem strength_rightOperand_le_negation (op : BinaryOp) :
    op.rightOperand.strength ≤ Nonterminal.negation.strength := by
  cases op <;> decide

theorem strength_phrase_lt_negation (op : BinaryOp) :
    op.phrase.strength < Nonterminal.negation.strength := by
  cases op <;> decide

end BinaryOp

end Connectives

import Connectives.Formula.Basic

/-!
# Connectives — the order on formulas

Formulas are ordered by their roots first: constants, then variables, then negations, then the
binary connectives by rank. Equal roots are told apart by their operands from left to right, and
variables by the code points of their names.
-/

namespace Connectives.Formula

/-- The place of the root among all roots; variables come after the constants. -/
def rootRank : Formula → Nat
  | top => 0
  | bottom => 1
  | var _ => 2
  | not _ => 3
  | binary op _ _ => 4 + op.rank

/-- Compares two formulas, roots first. -/
def compare : Formula → Formula → Ordering
  | var v, var w => Ord.compare v w
  | not f, not g => f.compare g
  | binary op f₁ f₂, binary op' g₁ g₂ =>
    (Ord.compare op.rank op'.rank).then ((f₁.compare g₁).then (f₂.compare g₂))
  | f, g => Ord.compare f.rootRank g.rootRank

instance : Ord Formula where
  compare := compare

/-- The formulas in ascending order. -/
def sort (fs : List Formula) : List Formula :=
  fs.mergeSort fun f g => (f.compare g).isLE

/-- The list without those members that repeat the one just before them. -/
def dropRepeats : List Formula → List Formula
  | [] => []
  | [f] => [f]
  | f :: g :: rest => if f = g then dropRepeats (g :: rest) else f :: dropRepeats (g :: rest)

end Connectives.Formula

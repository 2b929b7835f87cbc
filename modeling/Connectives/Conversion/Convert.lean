import Connectives.Conversion.Expressions

/-!
# Connectives — conversion to a basis

* `Basis.restrict` — a formula expressed in a basis, as a member of the basis' fragment.
* `Basis.convert` — the same as a formula.
-/

namespace Connectives.Basis

/-- The formulas over a basis. -/
abbrev Restricted (b : Basis) : Type :=
  Fragment b.connectives

/-- How a basis expresses every connective. -/
def interpretation : (b : Basis) → Interpretation b.connectives
  | notAndOr => NotAndOr.interpretation
  | notAnd => NotAnd.interpretation
  | nand => NandOnly.interpretation
  | impliesNot => ImpliesNot.interpretation
  | impliesFalse => ImpliesFalse.interpretation

/-- The formula expressed in the basis. -/
def restrict (b : Basis) (f : Formula) : b.Restricted :=
  b.interpretation.apply f.witness f

/-- The formula with its connectives replaced by those of the basis. -/
def convert (b : Basis) (f : Formula) : Formula :=
  (b.restrict f).toFormula

end Connectives.Basis

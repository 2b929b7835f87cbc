import Connectives.Basis.Basic
import Connectives.Conversion.Interpretation

/-!
# Connectives — the interpretation of each basis

How the five bases express the connectives that they lack. In each section the basis' own
connectives come first, then what is derived from them, then the interpretation.
-/

namespace Connectives

-- ---------------------------------------------------------------------------
-- Negation, conjunction and disjunction
-- ---------------------------------------------------------------------------

/-- Formulas over ¬, ∧ and ∨. -/
abbrev NotAndOr := Fragment Basis.notAndOr.connectives

namespace NotAndOr

/-- The negation of a formula. -/
def not (a : NotAndOr) : NotAndOr :=
  Fragment.not (by decide) a

/-- The conjunction of two formulas. -/
def and (a b : NotAndOr) : NotAndOr :=
  Fragment.binary .and (by decide) a b

/-- The disjunction of two formulas. -/
def or (a b : NotAndOr) : NotAndOr :=
  Fragment.binary .or (by decide) a b

/-- The constants are `p ∨ ¬p` and `p ∧ ¬p`. -/
def interpretation : Interpretation Basis.notAndOr.connectives where
  top w := or (.var w) (not (.var w))
  bottom w := and (.var w) (not (.var w))
  not := not
  binary
    | .and, a, b => and a b
    | .or, a, b => or a b
    | .implies, a, b => or (not a) b
    | .xor, a, b => or (and a (not b)) (and (not a) b)
    | .iff, a, b => or (and a b) (and (not a) (not b))
    | .nand, a, b => not (and a b)
    | .nor, a, b => not (or a b)

end NotAndOr

-- ---------------------------------------------------------------------------
-- Negation and conjunction
-- ---------------------------------------------------------------------------

/-- Formulas over ¬ and ∧. -/
abbrev NotAnd := Fragment Basis.notAnd.connectives

namespace NotAnd

/-- The negation of a formula. -/
def not (a : NotAnd) : NotAnd :=
  Fragment.not (by decide) a

/-- The conjunction of two formulas. -/
def and (a b : NotAnd) : NotAnd :=
  Fragment.binary .and (by decide) a b

/-- The disjunction of two formulas, `¬(¬a ∧ ¬b)`. -/
def or (a b : NotAnd) : NotAnd :=
  not (and (not a) (not b))

/-- The constant ⟘, `p ∧ ¬p`. -/
def bottom (w : String) : NotAnd :=
  and (.var w) (not (.var w))

/-- Disjunctions that another connective needs are themselves expressed by `or`. -/
def interpretation : Interpretation Basis.notAnd.connectives where
  top w := not (bottom w)
  bottom := bottom
  not := not
  binary
    | .and, a, b => and a b
    | .or, a, b => or a b
    | .implies, a, b => not (and a (not b))
    | .xor, a, b => and (or a b) (not (and a b))
    | .iff, a, b => or (and a b) (and (not a) (not b))
    | .nand, a, b => not (and a b)
    | .nor, a, b => and (not a) (not b)

end NotAnd

-- ---------------------------------------------------------------------------
-- The Sheffer stroke
-- ---------------------------------------------------------------------------

/-- Formulas over ↑. -/
abbrev NandOnly := Fragment Basis.nand.connectives

namespace NandOnly

/-- The Sheffer stroke of two formulas. -/
def nand (a b : NandOnly) : NandOnly :=
  Fragment.binary .nand (by decide) a b

/-- The negation of a formula, `a ↑ a`. -/
def not (a : NandOnly) : NandOnly :=
  nand a a

/-- The conjunction of two formulas, a negated stroke. -/
def and (a b : NandOnly) : NandOnly :=
  not (nand a b)

/-- The disjunction of two formulas, `(a ↑ a) ↑ (b ↑ b)`. -/
def or (a b : NandOnly) : NandOnly :=
  nand (not a) (not b)

/-- The bi-implication of two formulas, `(a ∨ b) ↑ (a ↑ b)`. -/
def iff (a b : NandOnly) : NandOnly :=
  nand (or a b) (nand a b)

/-- The constant ⊤, `p ↑ (p ↑ p)`. -/
def top (w : String) : NandOnly :=
  nand (.var w) (not (.var w))

/-- A stroke is native, and every negation doubles its operand. -/
def interpretation : Interpretation Basis.nand.connectives where
  top := top
  bottom w := not (top w)
  not := not
  binary
    | .and, a, b => and a b
    | .or, a, b => or a b
    | .implies, a, b => nand a (not b)
    | .xor, a, b => not (iff a b)
    | .iff, a, b => iff a b
    | .nand, a, b => nand a b
    | .nor, a, b => not (or a b)

end NandOnly

-- ---------------------------------------------------------------------------
-- Implication and negation
-- ---------------------------------------------------------------------------

/-- Formulas over → and ¬. -/
abbrev ImpliesNot := Fragment Basis.impliesNot.connectives

namespace ImpliesNot

/-- The negation of a formula. -/
def not (a : ImpliesNot) : ImpliesNot :=
  Fragment.not (by decide) a

/-- The implication between two formulas. -/
def implies (a b : ImpliesNot) : ImpliesNot :=
  Fragment.binary .implies (by decide) a b

/-- The conjunction of two formulas, `¬(a → ¬b)`. -/
def and (a b : ImpliesNot) : ImpliesNot :=
  not (implies a (not b))

/-- The disjunction of two formulas, `¬a → b`. -/
def or (a b : ImpliesNot) : ImpliesNot :=
  implies (not a) b

/-- The constant ⊤, `p → p`. -/
def top (w : String) : ImpliesNot :=
  implies (.var w) (.var w)

/-- Exclusive disjunction is a disjunction without the conjunction, bi-implication is implication
both ways. -/
def interpretation : Interpretation Basis.impliesNot.connectives where
  top := top
  bottom w := not (top w)
  not := not
  binary
    | .and, a, b => and a b
    | .or, a, b => or a b
    | .implies, a, b => implies a b
    | .xor, a, b => and (or a b) (not (and a b))
    | .iff, a, b => and (implies a b) (implies b a)
    | .nand, a, b => not (and a b)
    | .nor, a, b => not (or a b)

end ImpliesNot

-- ---------------------------------------------------------------------------
-- Implication and falsehood
-- ---------------------------------------------------------------------------

/-- Formulas over → and ⟘. -/
abbrev ImpliesFalse := Fragment Basis.impliesFalse.connectives

namespace ImpliesFalse

/-- The constant ⟘. -/
def bottom : ImpliesFalse :=
  Fragment.bottom (by decide)

/-- The implication between two formulas. -/
def implies (a b : ImpliesFalse) : ImpliesFalse :=
  Fragment.binary .implies (by decide) a b

/-- The negation of a formula, `a → ⟘`. -/
def not (a : ImpliesFalse) : ImpliesFalse :=
  implies a bottom

/-- The conjunction of two formulas, `(a → (b → ⟘)) → ⟘`. -/
def and (a b : ImpliesFalse) : ImpliesFalse :=
  not (implies a (not b))

/-- The disjunction of two formulas, `(a → ⟘) → b`. -/
def or (a b : ImpliesFalse) : ImpliesFalse :=
  implies (not a) b

/-- A constant is native, so no variable is ever brought in. -/
def interpretation : Interpretation Basis.impliesFalse.connectives where
  top _ := not bottom
  bottom _ := bottom
  not := not
  binary
    | .and, a, b => and a b
    | .or, a, b => or a b
    | .implies, a, b => implies a b
    | .xor, a, b => and (or a b) (not (and a b))
    | .iff, a, b => and (implies a b) (implies b a)
    | .nand, a, b => not (and a b)
    | .nor, a, b => not (or a b)

end ImpliesFalse

end Connectives

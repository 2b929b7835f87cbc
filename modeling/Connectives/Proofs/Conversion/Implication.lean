import Connectives.Proofs.Conversion.Uniformity
import Connectives.Proofs.Conversion.Variables

/-!
# Connectives — the two bases of implication

A formula over {→, ¬} is expressed over {→, ⟘} by reading `¬a` as `a → ⟘` throughout. This takes every
row of the first basis to the same row of the second one, so a formula comes out the same whether or
not it goes through {→, ¬} on its way to {→, ⟘}. The constants are the exception: the first basis
expresses them over a variable, the second one does not.

* `Formula.unfoldNegations` — negations read as implications.
* `Basis.toImpliesFalse_hom` — conversion to {→, ⟘} takes the rows of {→, ¬} to its own.
* `Basis.convert_impliesFalse` — the conversion to {→, ⟘} by way of {→, ¬}.
-/

namespace Connectives

/-- The formula with `a → ⟘` for every negation `¬a`, innermost first. -/
def Formula.unfoldNegations : Formula → Formula
  | top => top
  | bottom => bottom
  | var v => var v
  | not f => binary .implies f.unfoldNegations bottom
  | binary op f g => binary op f.unfoldNegations g.unfoldNegations

namespace Basis

variable {f : Formula}

/-- Over {→, ¬} there is nothing but the negations to convert. -/
theorem convert_toFormula_impliesNot (x : ImpliesNot) :
    impliesFalse.convert x.toFormula = x.toFormula.unfoldNegations := by
  rw [convert, restrict]
  generalize x.toFormula.witness = w
  induction x with
  | top mem => exact absurd mem (by decide)
  | bottom mem => exact absurd mem (by decide)
  | var v => rfl
  | not mem x ih => exact congrArg (Formula.binary .implies · .bottom) ih
  | binary op mem x y ihx ihy =>
    cases op with
    | implies => exact congr (congrArg (Formula.binary .implies) ihx) ihy
    | _ => exact absurd mem (by decide)

/-- **Conversion to {→, ⟘} takes the rows of {→, ¬} to its own.** -/
theorem toImpliesFalse_hom (w : String) :
    impliesNot.interpretation.Hom impliesFalse.interpretation
      fun x => impliesFalse.interpretation.apply w x.toFormula where
  not _ := rfl
  binary op _ _ := by cases op <;> rfl

theorem convert_impliesFalse_convert_impliesNot (h : ¬ f.HasConstant) :
    impliesFalse.convert (impliesNot.convert f) = impliesFalse.convert f := by
  have hApply := (toImpliesFalse_hom f.witness).apply_substitute f.witness
    f.witness .var f (fun _ _ => rfl) fun hf => absurd hf h
  rw [Formula.substitute_var] at hApply
  rw [convert, restrict, witness_convert]
  exact congrArg Fragment.toFormula hApply

/-- **Without constants, the two bases of implication agree.** Going through {→, ¬} makes no
difference to a conversion to {→, ⟘}, and the two results differ in no more than how they write
negation. -/
theorem convert_impliesFalse (f : Formula) (h : ¬ f.HasConstant) :
    impliesFalse.convert (impliesNot.convert f) = impliesFalse.convert f ∧
      impliesFalse.convert f = (impliesNot.convert f).unfoldNegations := by
  have hThrough := convert_impliesFalse_convert_impliesNot h
  refine ⟨hThrough, ?_⟩
  rw [← hThrough]
  exact convert_toFormula_impliesNot (impliesNot.restrict f)

/-- `p ↓ ¬q` either way. With a constant the ways part: ⊤ is `p → p` on the one and `⟘ → ⟘` on the
other. -/
theorem convert_impliesFalse_nor :
    let f := Formula.binary .nor (.var "p") (.not (.var "q"))
    ¬ f.HasConstant ∧ impliesFalse.convert (impliesNot.convert f) = impliesFalse.convert f ∧
      impliesFalse.convert f = (impliesNot.convert f).unfoldNegations ∧
      (impliesFalse.convert f).render .ascii = "((p -> false) -> (q -> false)) -> false" ∧
      impliesFalse.convert (impliesNot.convert .top) ≠ impliesFalse.convert .top := by
  intro f
  have hFormula : ¬ f.HasConstant := by decide
  obtain ⟨hThrough, hUnfold⟩ := convert_impliesFalse f hFormula
  exact ⟨hFormula, hThrough, hUnfold, by decide, by decide⟩

end Basis

end Connectives

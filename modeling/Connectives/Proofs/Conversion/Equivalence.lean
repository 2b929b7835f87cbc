import Connectives.Proofs.Conversion.Meaning
import Connectives.Proofs.Conversion.Variables
import Connectives.Proofs.Truth.Equivalence

/-!
# Connectives — a conversion is found equivalent

Where no variable is missed, a converted formula has the truth value of the formula, so the two are
equivalent in the classical sense. Conversion adds no variable to those that a formula has, and one
to none if the basis has no constants. So the truth values are listed in the same order, and it is
known from the formula alone how many rows the comparison of the two goes through, and whether it can.

* `Basis.holds_convert` — the same truth value under every valuation.
* `Basis.convert_keeps_variables` — the same variables and truth values, in the same order.
* `Basis.length_jointVars_convert` — the number of variables of both.
* `Basis.isEquivalent_convert` — the answer of the comparison.
-/

namespace Connectives.Basis

/-- **A converted formula has the same truth value under every valuation.** -/
theorem holds_convert (b : Basis) (f : Formula) (ρ : String → Bool) :
    (b.convert f).holds ρ = f.holds ρ := by
  have hRows : ∀ a ∈ f.jointRows (b.convert f),
      f.holds a.valuation = (b.convert f).holds a.valuation := by
    intro a ha
    have hFormula := Formula.evaluate_of_mem_jointRows f (b.convert f)
      (fun v hv => Formula.mem_jointVars.2 (Or.inl hv)) ha
    have hResult := Formula.evaluate_of_mem_jointRows f (b.convert f)
      (fun v hv => Formula.mem_jointVars.2 (Or.inr hv)) ha
    have hAgrees := b.convert_agrees f a
    rw [hFormula, hResult] at hAgrees
    -- the witness is among the variables of both, so it is not missed here
    generalize (b.convert f).holds a.valuation = y at hAgrees
    cases hAgrees with
    | same => rfl
  have hAll : ∀ σ, f.holds σ = (b.convert f).holds σ := by
    rw [← Formula.all_jointRows_iff, List.all_eq_true]
    intro a ha
    exact beq_iff_eq.2 (hRows a ha)
  exact (hAll ρ).symm

-- ---------------------------------------------------------------------------
-- Truth values
-- ---------------------------------------------------------------------------

/-- **Conversion keeps the list of truth values** where it keeps the variables, and with them the
rows. -/
theorem truthValues_convert {b : Basis} {f : Formula} (h : f.vars ≠ [] ∨ b = impliesFalse) :
    (b.convert f).truthValues = f.truthValues := by
  have hVars : (b.convert f).vars = f.vars := by rw [vars_convert, if_pos h]
  rw [Formula.truthValues_eq, Formula.truthValues_eq, hVars]
  simp only [holds_convert]

/-- **Conversion keeps the variables**, each in its place, and so it keeps the truth values, or the
failure if there are too many variables to list them. Only a formula without any variable gets one,
from a basis without constants. -/
theorem convert_keeps_variables (b : Basis) (f : Formula) :
    (f.names ≠ [] ∨ b = impliesFalse →
      (b.convert f).vars = f.vars ∧ (b.convert f).truthValues = f.truthValues) ∧
    (f.names = [] → b ≠ impliesFalse → (b.convert f).vars = ["p"]) := by
  constructor
  · intro h
    have hKept : f.vars ≠ [] ∨ b = impliesFalse := h.imp_left (mt Formula.vars_eq_nil_iff.1)
    exact ⟨by rw [vars_convert, if_pos hKept], truthValues_convert hKept⟩
  · intro hNone hBasis
    have hNew : ¬ (f.vars ≠ [] ∨ b = impliesFalse) := by
      rintro (hSome | hNative)
      · exact hSome (Formula.vars_eq_nil_iff.2 hNone)
      · exact hBasis hNative
    rw [vars_convert, if_neg hNew]
    rfl

/-- In `⊤ ⊕ (q → p)` a constant stands in front of all variables, and NAND repeats and swaps
the operands: `q` still comes before `p`. A formula of constants alone gets `p`. -/
theorem convert_keeps_variables_xor_top :
    let f := Formula.binary .xor .top (.binary .implies (.var "q") (.var "p"))
    f.names ≠ [] ∧ (nand.convert f).vars = ["q", "p"] ∧
      (nand.convert f).truthValues = .ok [false, false, true, false] ∧
      (nand.convert (.binary .xor .top .bottom)).vars = ["p"] := by
  intro f
  have hNames : f.names ≠ [] := by decide
  obtain ⟨hVars, hValues⟩ := (convert_keeps_variables nand f).1 (Or.inl hNames)
  refine ⟨hNames, hVars, ?_, (convert_keeps_variables nand _).2 rfl (by decide)⟩
  rw [hValues]
  decide +kernel

-- ---------------------------------------------------------------------------
-- Comparison
-- ---------------------------------------------------------------------------

/-- How many variables a formula and its conversion have together. -/
def jointCount (b : Basis) (f : Formula) : Nat :=
  if f.names = [] ∧ b ≠ impliesFalse then 1 else f.names.toFinset.card

theorem length_jointVars_convert (b : Basis) (f : Formula) :
    (f.jointVars (b.convert f)).length = b.jointCount f := by
  have hCount : f.vars.length = f.names.toFinset.card := by
    rw [← List.toFinset_card_of_nodup f.nodup_vars]
    congr 1
    ext v
    rw [List.mem_toFinset, List.mem_toFinset, Formula.mem_vars_iff_mem_names]
  rw [Formula.jointVars, vars_convert, jointCount]
  split
  · next hKept =>
    have hNo : ¬ (f.names = [] ∧ b ≠ impliesFalse) := by
      rintro ⟨hNone, hBasis⟩
      exact hKept.elim (fun h => h (Formula.vars_eq_nil_iff.2 hNone)) hBasis
    rw [eraseDups_append_of_subset f.nodup_vars (List.Subset.refl _), if_neg hNo, hCount]
  · next hNew =>
    obtain ⟨hNone, hBasis⟩ := not_or.1 hNew
    have hVars : f.vars = [] := Decidable.not_not.1 hNone
    rw [if_pos ⟨Formula.vars_eq_nil_iff.1 hVars, hBasis⟩, hVars]
    rfl

/-- **The comparison finds a converted formula equivalent**, unless there are too many variables. -/
theorem isEquivalent_convert (b : Basis) (f : Formula) :
    f.isEquivalent (b.convert f) =
      if b.jointCount f ≤ maxEnumerated then .ok true
      else .error (.tooManyVariables (b.jointCount f)) := by
  rw [← length_jointVars_convert]
  split
  · next hFew =>
    have hAgree := (f.all_jointRows_iff (b.convert f)).2 fun ρ => (b.holds_convert f ρ).symm
    rw [f.isEquivalent_eq_ok _ hFew, hAgree]
  · next hMany => exact f.isEquivalent_eq_error _ (Nat.not_le.1 hMany)

end Connectives.Basis

import Connectives.Proofs.Truth.ShortCircuit

/-!
# Connectives — total valuations

Classically a formula has a truth value under every valuation of all variables, and nothing can be
missing. Evaluation under an assignment comes to the same where the assignment covers the formula:
then no variable is missed, and skipping a right operand that does not matter makes no difference.

* `Formula.holds` — the truth value under a valuation.
* `Formula.holds_congr` — it depends on the variables of the formula alone.
* `Assignment.valuation` — an assignment as a valuation.
* `Formula.evaluate_eq_ok_holds` — where all variables have a value, evaluation is classical.
-/

namespace Connectives

namespace Formula

/-- The truth value under a valuation of all variables. -/
def holds (ρ : String → Bool) : Formula → Bool
  | top => true
  | bottom => false
  | var v => ρ v
  | not f => !f.holds ρ
  | binary op f g => op.apply (f.holds ρ) (g.holds ρ)

theorem holds_congr {ρ σ : String → Bool} {f : Formula} (h : ∀ v ∈ f.vars, ρ v = σ v) :
    f.holds ρ = f.holds σ := by
  induction f with
  | top | bottom => rfl
  | var v => exact h v (mem_vars_var.2 rfl)
  | not f ih => rw [holds, holds, ih h]
  | binary op f g ihf ihg =>
    have hLeft := ihf fun v hv => h v (mem_vars_binary.2 (Or.inl hv))
    have hRight := ihg fun v hv => h v (mem_vars_binary.2 (Or.inr hv))
    rw [holds, holds, hLeft, hRight]

end Formula

/-- What settles a connective early is the value that it has in any case. -/
theorem BinaryOp.apply_of_settled {op : BinaryOp} {x value : Bool} (h : op.settled? x = some value)
    (y : Bool) : op.apply x y = value := by
  cases op <;> cases x <;> cases h <;> rfl

theorem Answer.combine_ok (op : BinaryOp) (x y : Bool) :
    Answer.combine op (.ok x) (.ok y) = .ok (op.apply x y) := by
  rw [combine]
  cases h : op.settled? x with
  | none => rfl
  | some value => rw [BinaryOp.apply_of_settled h]; rfl

/-- The assignment as a valuation, false where it gives no value. -/
def Assignment.valuation (a : Assignment) (v : String) : Bool :=
  (a.get? v).getD false

/-- **Where all variables of a formula have a value, evaluation is classical.** -/
theorem Formula.evaluate_eq_ok_holds {a : Assignment} {f : Formula}
    (h : ∀ v ∈ f.vars, a.get? v ≠ none) : f.evaluate a = .ok (f.holds a.valuation) := by
  induction f with
  | top | bottom => rfl
  | var v =>
    obtain ⟨x, hx⟩ := Option.ne_none_iff_exists'.1 (h v (mem_vars_var.2 rfl))
    rw [evaluate_var, holds, Assignment.valuation, hx]
    rfl
  | not f ih =>
    rw [evaluate_not, ih h]
    rfl
  | binary op f g ihf ihg =>
    have hLeft := ihf fun v hv => h v (mem_vars_binary.2 (Or.inl hv))
    have hRight := ihg fun v hv => h v (mem_vars_binary.2 (Or.inr hv))
    rw [evaluate_binary, hLeft, hRight, Answer.combine_ok, holds]

end Connectives

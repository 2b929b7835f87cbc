import Connectives.Proofs.Formula.Occurrence
import Connectives.Truth.Evaluation

/-!
# Connectives — the algebra of short-circuit evaluation

An evaluation answers with a truth value or with the first variable that has none, and a settled
left operand keeps the right one from being asked. `Answer.negate` and `Answer.combine` say how
the answers for the operands make the answer for a formula, so that formulas can be compared
through their answers alone.

Many classical equivalences hold of answers as they stand, failures and their order included: both
sides ask for the same operand first, and skip the second one in the same cases. Commutativity is
not among them. The laws below are those by which one set of connectives expresses another.

* `evaluate_not`, `evaluate_binary` — evaluation is a homomorphism into answers.
* `combine_*_eq_*` — the laws.
* `evaluate_eq_ok_of_assigned` — an assignment to all variables leaves nothing to miss.
-/

namespace Connectives

/-- What an evaluation answers. -/
abbrev Answer := Except TruthError Bool

namespace Answer

-- ---------------------------------------------------------------------------
-- Answers of compound formulas
-- ---------------------------------------------------------------------------

/-- The answer for a negation. -/
def negate (r : Answer) : Answer :=
  r.map (!·)

/-- The answer for a binary connective, where the right operand is asked only if it matters. -/
def combine (op : BinaryOp) : Answer → Answer → Answer
  | .error e, _ => .error e
  | .ok x, s => (op.settled? x).elim (s.map (op.apply x)) .ok

-- ---------------------------------------------------------------------------
-- Laws
-- ---------------------------------------------------------------------------

/-! Every law is checked on the answers of the operands: the left one fails, or is false, or is
true, and so is the right one. -/

variable (r s : Answer)

theorem combine_nand_eq_negate_and : combine .nand r s = negate (combine .and r s) := by
  rcases r with _ | _ | _ <;> rcases s with _ | _ | _ <;> rfl

theorem combine_nor_eq_negate_or : combine .nor r s = negate (combine .or r s) := by
  rcases r with _ | _ | _ <;> rcases s with _ | _ | _ <;> rfl

theorem combine_nor_eq_and_negate :
    combine .nor r s = combine .and (negate r) (negate s) := by
  rcases r with _ | _ | _ <;> rcases s with _ | _ | _ <;> rfl

theorem combine_or_eq_negate_and :
    combine .or r s = negate (combine .and (negate r) (negate s)) := by
  rcases r with _ | _ | _ <;> rcases s with _ | _ | _ <;> rfl

theorem combine_or_eq_nand_negate :
    combine .or r s = combine .nand (negate r) (negate s) := by
  rcases r with _ | _ | _ <;> rcases s with _ | _ | _ <;> rfl

theorem combine_or_eq_implies : combine .or r s = combine .implies (negate r) s := by
  rcases r with _ | _ | _ <;> rcases s with _ | _ | _ <;> rfl

theorem combine_and_eq_negate_nand : combine .and r s = negate (combine .nand r s) := by
  rcases r with _ | _ | _ <;> rcases s with _ | _ | _ <;> rfl

theorem combine_and_eq_negate_implies :
    combine .and r s = negate (combine .implies r (negate s)) := by
  rcases r with _ | _ | _ <;> rcases s with _ | _ | _ <;> rfl

theorem combine_implies_eq_or : combine .implies r s = combine .or (negate r) s := by
  rcases r with _ | _ | _ <;> rcases s with _ | _ | _ <;> rfl

theorem combine_implies_eq_negate_and :
    combine .implies r s = negate (combine .and r (negate s)) := by
  rcases r with _ | _ | _ <;> rcases s with _ | _ | _ <;> rfl

theorem combine_implies_eq_nand : combine .implies r s = combine .nand r (negate s) := by
  rcases r with _ | _ | _ <;> rcases s with _ | _ | _ <;> rfl

theorem combine_xor_eq_or_and :
    combine .xor r s = combine .or (combine .and r (negate s)) (combine .and (negate r) s) := by
  rcases r with _ | _ | _ <;> rcases s with _ | _ | _ <;> rfl

theorem combine_xor_eq_and_negate :
    combine .xor r s = combine .and (combine .or r s) (negate (combine .and r s)) := by
  rcases r with _ | _ | _ <;> rcases s with _ | _ | _ <;> rfl

theorem combine_xor_eq_negate_iff : combine .xor r s = negate (combine .iff r s) := by
  rcases r with _ | _ | _ <;> rcases s with _ | _ | _ <;> rfl

theorem combine_iff_eq_or_and :
    combine .iff r s =
      combine .or (combine .and r s) (combine .and (negate r) (negate s)) := by
  rcases r with _ | _ | _ <;> rcases s with _ | _ | _ <;> rfl

theorem combine_iff_eq_nand :
    combine .iff r s = combine .nand (combine .or r s) (combine .nand r s) := by
  rcases r with _ | _ | _ <;> rcases s with _ | _ | _ <;> rfl

theorem combine_iff_eq_and_implies :
    combine .iff r s = combine .and (combine .implies r s) (combine .implies s r) := by
  rcases r with _ | _ | _ <;> rcases s with _ | _ | _ <;> rfl

theorem negate_eq_nand : negate r = combine .nand r r := by
  rcases r with _ | _ | _ <;> rfl

theorem negate_eq_implies_false : negate r = combine .implies r (.ok false) := by
  rcases r with _ | _ | _ <;> rfl

end Answer

-- ---------------------------------------------------------------------------
-- Evaluation
-- ---------------------------------------------------------------------------

namespace Formula

variable {a : Assignment}

theorem evaluate_var {v : String} :
    (var v).evaluate a = (a.get? v).elim (.error (.unassigned v)) .ok := by
  rw [evaluate]
  cases a.get? v <;> rfl

theorem evaluate_not {f : Formula} : (not f).evaluate a = Answer.negate (f.evaluate a) := by
  rw [evaluate]
  cases f.evaluate a <;> rfl

theorem evaluate_binary {op : BinaryOp} {f g : Formula} :
    (binary op f g).evaluate a = Answer.combine op (f.evaluate a) (g.evaluate a) := by
  rw [evaluate]
  cases f.evaluate a with
  | error e => rfl
  | ok x =>
    dsimp only [Answer.combine]
    cases op.settled? x with
    | some value => rfl
    | none => cases g.evaluate a <;> rfl

/-- An assignment to all variables of a formula gives it a value. -/
theorem evaluate_eq_ok_of_assigned {f : Formula} (h : ∀ v ∈ f.vars, a.get? v ≠ none) :
    ∃ x, f.evaluate a = .ok x := by
  induction f with
  | top => exact ⟨true, rfl⟩
  | bottom => exact ⟨false, rfl⟩
  | var v =>
    obtain ⟨x, hx⟩ := Option.ne_none_iff_exists'.mp (h v (mem_vars_var.2 rfl))
    exact ⟨x, by rw [evaluate_var, hx]; rfl⟩
  | not f ih =>
    obtain ⟨x, hx⟩ := ih h
    exact ⟨!x, by rw [evaluate_not, hx]; rfl⟩
  | binary op f g ihf ihg =>
    obtain ⟨x, hx⟩ := ihf fun v hv => h v (mem_vars_binary.2 (Or.inl hv))
    obtain ⟨y, hy⟩ := ihg fun v hv => h v (mem_vars_binary.2 (Or.inr hv))
    rw [evaluate_binary, hx, hy, Answer.combine]
    cases op.settled? x with
    | some value => exact ⟨value, rfl⟩
    | none => exact ⟨op.apply x y, rfl⟩

end Formula

end Connectives

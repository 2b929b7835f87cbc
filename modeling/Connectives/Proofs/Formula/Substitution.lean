import Connectives.Conversion.Interpretation
import Connectives.Proofs.Formula.FirstOccurrence

/-!
# Connectives — substitution

A substitution puts formulas in place of variables. Renaming is the case in which these are variables
again; several variables may get the same name. Members of a fragment are put in place of variables in
the same way, and the result is in the fragment.

* `Formula.substitute`, `Formula.rename`, `Fragment.substitute` — the operations.
* `Fragment.toFormula_substitute` — substitution in a fragment is substitution.
* `Formula.witness_rename` — the witness is renamed with the formula.
-/

namespace Connectives

-- ---------------------------------------------------------------------------
-- Formulas
-- ---------------------------------------------------------------------------

namespace Formula

/-- The formula with another one in place of each variable. -/
def substitute (σ : String → Formula) : Formula → Formula
  | top => top
  | bottom => bottom
  | var v => σ v
  | not f => not (f.substitute σ)
  | binary op f g => binary op (f.substitute σ) (g.substitute σ)

/-- The formula with its variables renamed. -/
def rename (s : String → String) (f : Formula) : Formula :=
  f.substitute fun v => var (s v)

theorem substitute_var (f : Formula) : f.substitute var = f := by
  induction f with
  | top | bottom | var => rfl
  | not f ih => rw [substitute, ih]
  | binary op f g ihf ihg => rw [substitute, ihf, ihg]

/-- Renaming renames the leaves one by one. -/
theorem names_rename (s : String → String) (f : Formula) :
    (f.rename s).names = f.names.map s := by
  unfold rename
  induction f with
  | top | bottom | var => rfl
  | not f ih => exact ih
  | binary op f g ihf ihg => simp [substitute, names, ihf, ihg]

/-- **The witness is renamed with the formula**, even if other variables get the same name. -/
theorem witness_rename (s : String → String) {f : Formula} (h : f.names ≠ []) :
    (f.rename s).witness = s f.witness := by
  obtain ⟨v, rest, hNames⟩ := List.exists_cons_of_ne_nil h
  -- the witness is the leftmost name, and that is not affected by what is dropped later
  have hFirst : ∀ g : Formula, g.witness = g.names.head?.getD defaultWitness := by
    intro g
    rw [witness, List.headD_eq_head?_getD, head?_vars]
  rw [hFirst, hFirst, names_rename, hNames]
  rfl

end Formula

-- ---------------------------------------------------------------------------
-- Fragments
-- ---------------------------------------------------------------------------

namespace Fragment

variable {cs : List Connective}

/-- The member with another one in place of each variable. -/
def substitute (σ : String → Fragment cs) : Fragment cs → Fragment cs
  | top mem => top mem
  | bottom mem => bottom mem
  | var v => σ v
  | not mem x => not mem (x.substitute σ)
  | binary op mem x y => binary op mem (x.substitute σ) (y.substitute σ)

theorem toFormula_substitute (σ : String → Fragment cs) (x : Fragment cs) :
    (x.substitute σ).toFormula = x.toFormula.substitute fun v => (σ v).toFormula := by
  induction x with
  | top | bottom | var => rfl
  | not mem x ih => rw [substitute, toFormula, toFormula, Formula.substitute, ih]
  | binary op mem x y ihx ihy =>
    rw [substitute, toFormula, toFormula, Formula.substitute, ihx, ihy]

end Fragment

end Connectives

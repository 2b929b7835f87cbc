import Connectives.Conversion.Convert
import Connectives.Proofs.Formula.FirstOccurrence

/-!
# Connectives — conversion keeps the variables

The rows by which a basis expresses a connective repeat and swap the operands, but the left operand
always comes first, and nothing is left out. So the variables of a converted formula are those of the
formula, by first occurrence and in the same order. A constant brings in the witness, which is there
already and comes first, unless the formula has no variable at all.

* `Interpretation.Orderly` — every row has the variables of the connective that it expresses.
* `Basis.interpretation_orderly` — the five bases are orderly.
* `Basis.vars_convert` — the variables of a converted formula.
* `Basis.witness_convert` — a converted formula has the same witness.
-/

namespace Connectives

-- ---------------------------------------------------------------------------
-- The variables of a member
-- ---------------------------------------------------------------------------

namespace Fragment

variable {cs : List Connective}

/-- A member of a fragment has the variables of the formula that it is. -/
theorem vars_toFormula (x : Fragment cs) : x.toFormula.vars = x.vars := by
  induction x with
  | top | bottom | var => rfl
  | not _ x ih => exact ih
  | binary _ _ x y ihx ihy => rw [toFormula, Formula.vars, ihx, ihy, vars]

theorem nodup_vars (x : Fragment cs) : x.vars.Nodup := by
  rw [← vars_toFormula]
  exact x.toFormula.nodup_vars

end Fragment

-- ---------------------------------------------------------------------------
-- Orderly interpretations
-- ---------------------------------------------------------------------------

/-- The interpretation adds and drops no variable of the operands, and keeps the order in which they
first occur. `needsWitness` tells whether the constants are expressed over a variable. -/
structure Interpretation.Orderly {cs : List Connective} (i : Interpretation cs)
    (needsWitness : Bool) : Prop where
  top : ∀ w : String, (i.top w).vars = if needsWitness then [w] else []
  bottom : ∀ w : String, (i.bottom w).vars = if needsWitness then [w] else []
  not : ∀ x : Fragment cs, (i.not x).vars = x.vars
  binary : ∀ (op : BinaryOp) (x y : Fragment cs),
    (i.binary op x y).vars = (x.vars ++ y.vars).eraseDups

-- ---------------------------------------------------------------------------
-- Derived connectives
-- ---------------------------------------------------------------------------

section Derived

variable {cs : List Connective} {neg : Fragment cs → Fragment cs}
  {conj disj impl F : Fragment cs → Fragment cs → Fragment cs}

/-- The operation on members keeps the variables. -/
abbrev Keeps (neg : Fragment cs → Fragment cs) : Prop :=
  ∀ x : Fragment cs, (neg x).vars = x.vars

/-- The operation on members joins the variables, those of the left operand first. -/
abbrev Joins (F : Fragment cs → Fragment cs → Fragment cs) : Prop :=
  ∀ x y : Fragment cs, (F x y).vars = (x.vars ++ y.vars).eraseDups

/-- A right operand without variables of its own adds none. -/
theorem Joins.of_subset (h : Joins F) {x y : Fragment cs} (hSubset : y.vars ⊆ x.vars) :
    (F x y).vars = x.vars := by
  rw [h, eraseDups_append_of_subset x.nodup_vars hSubset]

theorem Joins.of_eq (h : Joins F) {x y : Fragment cs} (hVars : y.vars = x.vars) :
    (F x y).vars = x.vars :=
  h.of_subset (hVars ▸ List.Subset.refl _)

theorem Joins.subset (h : Joins F) (x y : Fragment cs) : (F y x).vars ⊆ (F x y).vars := by
  intro v hv
  rw [h, List.mem_eraseDups, List.mem_append] at hv
  rw [h, List.mem_eraseDups, List.mem_append]
  exact hv.symm

/-! What more than one basis derives in the same way. -/

theorem Keeps.joins (hn : Keeps neg) (hF : Joins F) : Joins fun x y => neg (F x y) := by
  intro x y
  rw [hn, hF]

/-- One or the other, but not both. -/
theorem Keeps.xor (hn : Keeps neg) (hc : Joins conj) (hd : Joins disj) :
    Joins fun x y => conj (disj x y) (neg (conj x y)) := by
  intro x y
  rw [hc.of_eq (by rw [hn, hc, hd]), hd]

/-- Both or neither. -/
theorem Keeps.iff (hn : Keeps neg) (hc : Joins conj) (hd : Joins disj) :
    Joins fun x y => disj (conj x y) (conj (neg x) (neg y)) := by
  intro x y
  rw [hd.of_eq (by rw [hc, hc, hn, hn]), hc]

/-- Implication both ways, of which the second has the operands swapped. -/
theorem Joins.iff (hc : Joins conj) (hi : Joins impl) :
    Joins fun x y => conj (impl x y) (impl y x) := by
  intro x y
  rw [hc.of_subset (hi.subset x y), hi]

theorem Keeps.left (hn : Keeps neg) (hF : Joins F) : Joins fun x y => F (neg x) y := by
  intro x y
  rw [hF, hn]

theorem Keeps.right (hn : Keeps neg) (hF : Joins F) : Joins fun x y => F x (neg y) := by
  intro x y
  rw [hF, hn]

end Derived

-- ---------------------------------------------------------------------------
-- The five bases
-- ---------------------------------------------------------------------------

namespace NotAndOr

theorem keeps_not : Keeps not := fun _ => rfl

theorem joins_and : Joins and := fun _ _ => rfl

theorem joins_or : Joins or := fun _ _ => rfl

theorem interpretation_orderly : interpretation.Orderly true where
  top w := joins_or.of_eq (keeps_not (.var w))
  bottom w := joins_and.of_eq (keeps_not (.var w))
  not := keeps_not
  binary op x y := by
    cases op with
    | and => exact joins_and x y
    | or => exact joins_or x y
    | implies => exact keeps_not.left joins_or x y
    | xor =>
      show (or (and x (not y)) (and (not x) y)).vars = _
      rw [joins_or.of_eq (by rw [joins_and, joins_and, keeps_not, keeps_not]), joins_and, keeps_not]
    | iff => exact keeps_not.iff joins_and joins_or x y
    | nand => exact keeps_not.joins joins_and x y
    | nor => exact keeps_not.joins joins_or x y

end NotAndOr

namespace NotAnd

theorem keeps_not : Keeps not := fun _ => rfl

theorem joins_and : Joins and := fun _ _ => rfl

theorem joins_or : Joins or := keeps_not.joins (keeps_not.left (keeps_not.right joins_and))

theorem vars_bottom (w : String) : (bottom w).vars = [w] :=
  joins_and.of_eq (keeps_not (.var w))

theorem interpretation_orderly : interpretation.Orderly true where
  top w := (keeps_not (bottom w)).trans (vars_bottom w)
  bottom := vars_bottom
  not := keeps_not
  binary op x y := by
    cases op with
    | and => exact joins_and x y
    | or => exact joins_or x y
    | implies => exact keeps_not.joins (keeps_not.right joins_and) x y
    | xor => exact keeps_not.xor joins_and joins_or x y
    | iff => exact keeps_not.iff joins_and joins_or x y
    | nand => exact keeps_not.joins joins_and x y
    | nor => exact keeps_not.left (keeps_not.right joins_and) x y

end NotAnd

namespace NandOnly

theorem joins_nand : Joins nand := fun _ _ => rfl

theorem keeps_not : Keeps not := fun _ => joins_nand.of_eq rfl

theorem joins_and : Joins and := keeps_not.joins joins_nand

theorem joins_or : Joins or := keeps_not.left (keeps_not.right joins_nand)

theorem joins_iff : Joins iff := by
  intro x y
  rw [iff, joins_nand.of_eq (by rw [joins_nand, joins_or]), joins_or]

theorem vars_top (w : String) : (top w).vars = [w] :=
  joins_nand.of_eq (keeps_not (.var w))

theorem interpretation_orderly : interpretation.Orderly true where
  top := vars_top
  bottom w := (keeps_not (top w)).trans (vars_top w)
  not := keeps_not
  binary op x y := by
    cases op with
    | and => exact joins_and x y
    | or => exact joins_or x y
    | implies => exact keeps_not.right joins_nand x y
    | xor => exact keeps_not.joins joins_iff x y
    | iff => exact joins_iff x y
    | nand => exact joins_nand x y
    | nor => exact keeps_not.joins joins_or x y

end NandOnly

namespace ImpliesNot

theorem keeps_not : Keeps not := fun _ => rfl

theorem joins_implies : Joins implies := fun _ _ => rfl

theorem joins_and : Joins and := keeps_not.joins (keeps_not.right joins_implies)

theorem joins_or : Joins or := keeps_not.left joins_implies

theorem vars_top (w : String) : (top w).vars = [w] :=
  joins_implies.of_eq rfl

theorem interpretation_orderly : interpretation.Orderly true where
  top := vars_top
  bottom w := (keeps_not (top w)).trans (vars_top w)
  not := keeps_not
  binary op x y := by
    cases op with
    | and => exact joins_and x y
    | or => exact joins_or x y
    | implies => exact joins_implies x y
    | xor => exact keeps_not.xor joins_and joins_or x y
    | iff => exact joins_and.iff joins_implies x y
    | nand => exact keeps_not.joins joins_and x y
    | nor => exact keeps_not.joins joins_or x y

end ImpliesNot

namespace ImpliesFalse

theorem joins_implies : Joins implies := fun _ _ => rfl

theorem keeps_not : Keeps not := fun _ => joins_implies.of_subset (List.nil_subset _)

theorem joins_and : Joins and := keeps_not.joins (keeps_not.right joins_implies)

theorem joins_or : Joins or := keeps_not.left joins_implies

theorem interpretation_orderly : interpretation.Orderly false where
  top _ := keeps_not bottom
  bottom _ := rfl
  not := keeps_not
  binary op x y := by
    cases op with
    | and => exact joins_and x y
    | or => exact joins_or x y
    | implies => exact joins_implies x y
    | xor => exact keeps_not.xor joins_and joins_or x y
    | iff => exact joins_and.iff joins_implies x y
    | nand => exact keeps_not.joins joins_and x y
    | nor => exact keeps_not.joins joins_or x y

end ImpliesFalse

-- ---------------------------------------------------------------------------
-- Variables of a converted formula
-- ---------------------------------------------------------------------------

namespace Interpretation.Orderly

variable {cs : List Connective} {i : Interpretation cs} {needsWitness : Bool}

/-- Apart from the witness, the variables stay the same and keep their order. -/
theorem filter_vars_apply (h : i.Orderly needsWitness) (w : String) (f : Formula) :
    (i.apply w f).vars.filter (· != w) = f.vars.filter (· != w) := by
  have hConstant : ∀ l : List String, l = (if needsWitness then [w] else []) →
      l.filter (· != w) = [] := by
    rintro l rfl
    cases needsWitness <;> simp
  induction f with
  | top => exact hConstant _ (h.top w)
  | bottom => exact hConstant _ (h.bottom w)
  | var v => rfl
  | not f ih => rw [apply, h.not, ih, Formula.vars]
  | binary op f g ihf ihg =>
    rw [apply, h.binary, Formula.vars, ← filter_eraseDups, ← filter_eraseDups, List.filter_append,
      List.filter_append, ihf, ihg]

/-- If constants are native, all variables stay the same. -/
theorem vars_apply_of_native (h : i.Orderly false) (w : String) (f : Formula) :
    (i.apply w f).vars = f.vars := by
  induction f with
  | top => exact h.top w
  | bottom => exact h.bottom w
  | var v => rfl
  | not f ih => rw [apply, h.not, ih, Formula.vars]
  | binary op f g ihf ihg => rw [apply, h.binary, ihf, ihg, Formula.vars]

/-- If constants need a witness, there is a first variable, and it is the first one of the formula
unless it is the witness. -/
theorem exists_head?_vars_apply (h : i.Orderly true) (w : String) (f : Formula) :
    ∃ v, (i.apply w f).vars.head? = some v ∧ (v = w ∨ f.vars.head? = some v) := by
  induction f with
  | top => exact ⟨w, by rw [apply, h.top]; rfl, Or.inl rfl⟩
  | bottom => exact ⟨w, by rw [apply, h.bottom]; rfl, Or.inl rfl⟩
  | var v => exact ⟨v, rfl, Or.inr rfl⟩
  | not f ih => rwa [apply, h.not, Formula.vars]
  | binary op f g ihf _ =>
    obtain ⟨v, hHead, hv⟩ := ihf
    rw [apply, h.binary, Formula.vars, head?_eraseDups, head?_eraseDups, List.head?_append,
      List.head?_append, hHead]
    refine ⟨v, rfl, hv.imp_right fun hFirst => ?_⟩
    rw [hFirst]
    rfl

/-- If constants need a witness, it comes first. -/
theorem vars_apply_witness (h : i.Orderly true) (f : Formula) :
    (i.apply f.witness f).vars = f.witness :: f.vars.filter (· != f.witness) := by
  obtain ⟨v, hHead, hv⟩ := h.exists_head?_vars_apply f.witness f
  have hWitness : v = f.witness := by
    rcases hv with hEq | hFirst
    · exact hEq
    · rw [Formula.witness, List.headD_eq_head?_getD, hFirst]
      rfl
  subst hWitness
  obtain ⟨rest, hVars⟩ := List.head?_eq_some_iff.1 hHead
  have hNodup := (i.apply f.witness f).nodup_vars
  rw [hVars, List.nodup_cons] at hNodup
  rw [← h.filter_vars_apply, hVars, List.filter_cons_of_neg (by simp),
    filter_ne_eq_self hNodup.1]

end Interpretation.Orderly

namespace Basis

/-- Every basis keeps the variables, and all but one need a witness. -/
theorem interpretation_orderly (b : Basis) : b.interpretation.Orderly (b != impliesFalse) := by
  cases b with
  | notAndOr => exact NotAndOr.interpretation_orderly
  | notAnd => exact NotAnd.interpretation_orderly
  | nand => exact NandOnly.interpretation_orderly
  | impliesNot => exact ImpliesNot.interpretation_orderly
  | impliesFalse => exact ImpliesFalse.interpretation_orderly

/-- **Conversion keeps the variables and their order.** Only a formula without variables gets one,
if the basis has no constants. -/
theorem vars_convert (b : Basis) (f : Formula) :
    (b.convert f).vars =
      if f.vars ≠ [] ∨ b = impliesFalse then f.vars else [defaultWitness] := by
  have hOrderly := b.interpretation_orderly
  rw [convert, Fragment.vars_toFormula, restrict]
  by_cases hBasis : b = impliesFalse
  · subst hBasis
    rw [hOrderly.vars_apply_of_native, if_pos (Or.inr rfl)]
  · have hNeeds : (b != impliesFalse) = true := by simpa using hBasis
    rw [hNeeds] at hOrderly
    rw [hOrderly.vars_apply_witness]
    have hNodup := f.nodup_vars
    cases hVars : f.vars with
    | nil => simp [hBasis, Formula.witness, hVars]
    | cons v rest =>
      rw [hVars, List.nodup_cons] at hNodup
      simp [Formula.witness, hVars, filter_ne_eq_self hNodup.1]

/-- **A converted formula has the same witness.** -/
theorem witness_convert (b : Basis) (f : Formula) : (b.convert f).witness = f.witness := by
  rw [Formula.witness, Formula.witness, vars_convert]
  split
  · rfl
  · next hNone =>
    have hVars : f.vars = [] := Decidable.not_not.1 (not_or.1 hNone).1
    rw [hVars]
    rfl

end Basis

end Connectives

import Connectives.Proofs.Formula.Occurrence
import Connectives.Proofs.Random.Lots
import Connectives.Random.Formula

/-!
# Connectives — random formulas are those that were asked for

Random formulas are no deeper than asked for, have only the variables that were asked for, and no
constants unless these were allowed. That holds whichever way the lots fall. And nothing is left
out: each such formula comes of some lots.

* `RandomConfig.Allows` — what was asked for, and one lemma for each kind of node.
* `RandomConfig.drawFormula_ensures` — whichever way the lots fall, the formula is allowed.
* `RandomConfig.mayGive_drawFormula` — every formula that is allowed comes of some lots.
* `RandomConfig.drawFormulas` — several formulas, one after the other.
* `RandomConfig.draws_what_is_allowed` — the same for any number of formulas, and that the lots end.
-/

namespace Connectives

open Draw (MayGive)

-- ---------------------------------------------------------------------------
-- What is asked for
-- ---------------------------------------------------------------------------

namespace RandomConfig

/-- The formula is no deeper than this, and has no variables and constants but those that were asked
for. -/
structure Allows (c : RandomConfig) (depth : Nat) (f : Formula) : Prop where
  depth_le : f.depth ≤ depth
  vars : ∀ v ∈ f.vars, ∃ n < max c.vars 1, v = varName n
  constants : c.constants = false → ¬ f.HasConstant

section Allows

variable {c : RandomConfig} {depth : Nat} {f g : Formula}

theorem allows_constant_iff (hDepth : f.depth = 0) (hVars : f.vars = [])
    (hConstant : f.HasConstant) : c.Allows depth f ↔ c.constants = true := by
  constructor
  · intro h
    cases hConstants : c.constants with
    | true => rfl
    | false => exact absurd hConstant (h.constants hConstants)
  · intro h
    refine ⟨hDepth ▸ Nat.zero_le depth, fun v hv => ?_, fun hNone => ?_⟩
    · rw [hVars] at hv
      cases hv
    · rw [h] at hNone
      cases hNone

theorem allows_top_iff : c.Allows depth .top ↔ c.constants = true :=
  allows_constant_iff rfl rfl Formula.hasConstant_top

theorem allows_bottom_iff : c.Allows depth .bottom ↔ c.constants = true :=
  allows_constant_iff rfl rfl Formula.hasConstant_bottom

theorem allows_var_iff {v : String} :
    c.Allows depth (.var v) ↔ ∃ n < max c.vars 1, v = varName n := by
  constructor
  · intro h
    exact h.vars v (Formula.mem_vars_var.2 rfl)
  · intro h
    refine ⟨Nat.zero_le _, fun w hw => ?_, fun _ ⟨k, hk, _⟩ => Formula.not_mem_connectives_var hk⟩
    rwa [Formula.mem_vars_var.1 hw]

theorem allows_not_iff : c.Allows (depth + 1) (.not f) ↔ c.Allows depth f := by
  constructor
  · intro h
    exact ⟨Nat.le_of_succ_le_succ h.depth_le, h.vars, fun hNone hf => h.constants hNone hf.not⟩
  · intro h
    refine ⟨Nat.succ_le_succ h.depth_le, h.vars, fun hNone ⟨k, hk, hArity⟩ => ?_⟩
    rcases Formula.mem_connectives_not.1 hk with rfl | hOperand
    · cases hArity
    · exact h.constants hNone ⟨k, hOperand, hArity⟩

theorem allows_binary_iff {op : BinaryOp} :
    c.Allows (depth + 1) (.binary op f g) ↔ c.Allows depth f ∧ c.Allows depth g := by
  constructor
  · intro h
    have hDepth := Nat.le_of_succ_le_succ h.depth_le
    exact ⟨⟨Nat.le_trans (Nat.le_max_left _ _) hDepth,
        fun v hv => h.vars v (Formula.mem_vars_binary.2 (Or.inl hv)),
        fun hNone hf => h.constants hNone hf.left⟩,
      ⟨Nat.le_trans (Nat.le_max_right _ _) hDepth,
        fun v hv => h.vars v (Formula.mem_vars_binary.2 (Or.inr hv)),
        fun hNone hg => h.constants hNone hg.right⟩⟩
  · rintro ⟨hf, hg⟩
    refine ⟨Nat.succ_le_succ (Nat.max_le.2 ⟨hf.depth_le, hg.depth_le⟩), fun v hv => ?_,
      fun hNone ⟨k, hk, hArity⟩ => ?_⟩
    · exact (Formula.mem_vars_binary.1 hv).elim (hf.vars v) (hg.vars v)
    · rcases Formula.mem_connectives_binary.1 hk with rfl | hLeft | hRight
      · cases hArity
      · exact hf.constants hNone ⟨k, hLeft, hArity⟩
      · exact hg.constants hNone ⟨k, hRight, hArity⟩

/-- At depth zero only leaves are allowed. -/
theorem Allows.depth_pos {c : RandomConfig} {depth n : Nat} {f : Formula} (h : c.Allows depth f)
    (hDepth : f.depth = n + 1) : ∃ d, depth = d + 1 :=
  Nat.exists_eq_add_one_of_ne_zero (by have := h.depth_le; omega)

end Allows

-- ---------------------------------------------------------------------------
-- Leaves
-- ---------------------------------------------------------------------------

variable (c : RandomConfig) (depth : Nat)

/-- A name is picked, and there is always one. -/
theorem drawVar_ensures : c.drawVar.Ensures (c.Allows depth) 1 :=
  .choose (Nat.le_max_right c.vars 1) fun n hn => .pure (allows_var_iff.2 ⟨n, hn, rfl⟩)

theorem drawLeaf_ensures : c.drawLeaf.Ensures (c.Allows depth) 2 := by
  rw [drawLeaf]
  split
  · next hConstants =>
    refine .toss fun constant => ?_
    split
    · refine .toss fun top => .pure ?_
      split
      · exact allows_top_iff.2 hConstants
      · exact allows_bottom_iff.2 hConstants
    · exact c.drawVar_ensures depth
  · exact (c.drawVar_ensures depth).mono (Nat.le_succ 1)

/-- A coin decides on a constant, if these are allowed, and another one between the two. -/
theorem mayGive_drawLeaf_constant (hConstants : c.constants = true) (top : Bool) :
    c.drawLeaf.MayGive (if top then .top else .bottom) := by
  rw [drawLeaf, if_pos hConstants]
  exact .toss true (.toss top (.pure _))

theorem mayGive_drawLeaf_var {n : Nat} (hn : n < max c.vars 1) :
    c.drawLeaf.MayGive (.var (varName n)) := by
  have hVar : c.drawVar.MayGive (.var (varName n)) := .choose hn (.pure _)
  rw [drawLeaf]
  split
  · exact .toss false hVar
  · exact hVar

-- ---------------------------------------------------------------------------
-- Formulas
-- ---------------------------------------------------------------------------

/-- The most lots that a formula takes. A node takes two, and its operands may be leaves or not. -/
def mostLots : Nat → Nat
  | 0 => 2
  | depth + 1 => mostLots depth + mostLots depth + 2

/-- A leaf below the root takes the toss that makes it one. -/
theorem two_le_mostLots (depth : Nat) : 2 ≤ mostLots depth := by
  cases depth with
  | zero => exact Nat.le_refl 2
  | succ depth => exact Nat.le_add_left 2 _

/-- **Whichever way the lots fall, the formula is allowed.** -/
theorem drawFormula_ensures : (c.drawFormula depth).Ensures (c.Allows depth) (mostLots depth) := by
  induction depth with
  | zero => exact c.drawLeaf_ensures 0
  | succ depth ih =>
    have hTwo := two_le_mostLots depth
    rw [drawFormula, mostLots]
    refine .toss fun leaf => ?_
    split
    · exact (c.drawLeaf_ensures _).mono (by omega)
    · refine .choose (by decide) fun choice _ => ?_
      cases choice with
      | zero =>
        exact (ih.bind_pure fun f hf => allows_not_iff.2 hf).mono (by omega)
      | succ choice =>
        exact (ih.bind fun f hf => ih.bind_pure fun g hg =>
          allows_binary_iff.2 ⟨hf, hg⟩).mono (by omega)

/-- Each binary connective has its place among the choices. -/
theorem getElem?_binaryOps_rank (op : BinaryOp) : binaryOps[op.rank]? = some op := by
  cases op <;> rfl

/-- At any depth a leaf may come of a toss, or is all there is. -/
theorem mayGive_drawFormula_leaf {f : Formula} (h : c.drawLeaf.MayGive f) :
    (c.drawFormula depth).MayGive f := by
  cases depth with
  | zero => exact h
  | succ depth => exact .toss true h

/-- **Every formula that is allowed comes of some lots.** -/
theorem mayGive_drawFormula {f : Formula} (h : c.Allows depth f) :
    (c.drawFormula depth).MayGive f := by
  induction f generalizing depth with
  | top =>
    exact c.mayGive_drawFormula_leaf depth (c.mayGive_drawLeaf_constant (allows_top_iff.1 h) true)
  | bottom =>
    exact c.mayGive_drawFormula_leaf depth
      (c.mayGive_drawLeaf_constant (allows_bottom_iff.1 h) false)
  | var v =>
    obtain ⟨n, hn, rfl⟩ := allows_var_iff.1 h
    exact c.mayGive_drawFormula_leaf depth (c.mayGive_drawLeaf_var hn)
  | not f ih =>
    obtain ⟨depth, rfl⟩ := h.depth_pos rfl
    exact .toss false (.choose (n := 0) (by decide) ((ih depth (allows_not_iff.1 h)).bind (.pure _)))
  | binary op f g ihf ihg =>
    obtain ⟨depth, rfl⟩ := h.depth_pos rfl
    obtain ⟨hf, hg⟩ := allows_binary_iff.1 h
    have hRank : op.rank + 1 < 8 := by cases op <;> decide
    have hOp : binaryOps[op.rank]?.getD .nor = op := by rw [getElem?_binaryOps_rank, Option.getD_some]
    refine .toss false (.choose hRank ((ihf depth hf).bind ((ihg depth hg).bind ?_)))
    rw [hOp]
    exact .pure _

-- ---------------------------------------------------------------------------
-- One formula after the other
-- ---------------------------------------------------------------------------

/-- The next `count` formulas. -/
def drawFormulas (c : RandomConfig) : Nat → Draw (List Formula)
  | 0 => return []
  | count + 1 => do
    let f ← c.drawFormula c.depth
    let fs ← drawFormulas c count
    return f :: fs

/-- They come one after the other from the same generator. -/
theorem run_drawFormulas {σ : Type} (gen : σ → Nat × σ) (count : Nat) (s : σ) :
    ((c.drawFormulas count).run gen s).1 = c.formulasFrom gen count s := by
  induction count generalizing s with
  | zero => rfl
  | succ count ih =>
    rw [drawFormulas, Draw.run_bind, Draw.run_bind, ih]
    rfl

theorem drawFormulas_ensures (count : Nat) :
    (c.drawFormulas count).Ensures (fun fs => fs.length = count ∧ ∀ f ∈ fs, c.Allows c.depth f)
      (count * mostLots c.depth) := by
  induction count with
  | zero => exact .pure ⟨rfl, nofun⟩
  | succ count ih =>
    rw [Nat.succ_mul, Nat.add_comm (count * mostLots c.depth)]
    refine (c.drawFormula_ensures c.depth).bind fun f hf => ih.bind_pure fun fs hfs => ?_
    exact ⟨congrArg (· + 1) hfs.1, List.forall_mem_cons.2 ⟨hf, hfs.2⟩⟩

theorem mayGive_drawFormulas {fs : List Formula} (h : ∀ f ∈ fs, c.Allows c.depth f) :
    (c.drawFormulas fs.length).MayGive fs := by
  induction fs with
  | nil => exact .pure _
  | cons f fs ih =>
    obtain ⟨hHead, hTail⟩ := List.forall_mem_cons.1 h
    exact (c.mayGive_drawFormula c.depth hHead).bind ((ih hTail).bind (.pure _))

/--
**Drawing gives just the formulas that were asked for.** Lots lead to as many formulas as are drawn,
each of which is allowed, and all such formulas come of some lots. On the way no number is ever
picked out of none; the number of lots is bounded, and wherever they have led so far, some
result is ahead. What a generator of numbers gives is one case of this.
-/
theorem draws_what_is_allowed (c : RandomConfig) (count : Nat) :
    (∀ fs, (c.drawFormulas count).MayGive fs ↔
      fs.length = count ∧ ∀ f ∈ fs, c.Allows c.depth f) ∧
    (∀ lots d, (c.drawFormulas count).Leads lots d →
      lots.length ≤ count * mostLots c.depth ∧
      (∀ bound next, d = .pick bound next → 0 < bound) ∧
      ∃ fs, d.MayGive fs) ∧
    (∀ (σ : Type) (gen : σ → Nat × σ) (s : σ),
      (c.drawFormulas count).MayGive (c.formulasFrom gen count s)) := by
  have hEnsures := c.drawFormulas_ensures count
  refine ⟨fun fs => ⟨?_, ?_⟩, fun lots d hLeads => ?_, fun σ gen s => ?_⟩
  · rintro ⟨lots, hLeads⟩
    obtain ⟨left, -, hResult⟩ := hEnsures.leads hLeads
    exact hResult.result
  · rintro ⟨rfl, hAllows⟩
    exact c.mayGive_drawFormulas hAllows
  · obtain ⟨left, hLength, hLeft⟩ := hEnsures.leads hLeads
    refine ⟨by omega, ?_, hLeft.exists_mayGive⟩
    rintro bound next rfl
    exact hLeft.bound_pos
  · rw [← c.run_drawFormulas]
    exact hEnsures.mayGive_run gen s

/-- Where no variable is asked for, `p0` stands at a leaf all the same: it is picked out of one name. -/
theorem draws_what_is_allowed_not_p0 :
    let c : RandomConfig := { depth := 1, vars := 0, constants := false }
    (∀ f ∈ [Formula.not (.var "p0")], c.Allows c.depth f) ∧
      (c.drawFormulas 1).MayGive [.not (.var "p0")] ∧
      ∃ next, (c.drawFormulas 1).Leads [.side false, .number 0] (.pick 1 next) ∧
        2 ≤ 1 * mostLots 1 ∧ 0 < 1 := by
  intro c
  have hAllows : ∀ f ∈ [Formula.not (.var "p0")], c.Allows c.depth f := by
    rw [List.forall_mem_singleton]
    exact allows_not_iff.2 (allows_var_iff.2 ⟨0, by decide, rfl⟩)
  have hLeads : (c.drawFormulas 1).Leads [.side false, .number 0] (.pick 1 _) :=
    .step (.coin 2 _ false) (.step (.pick _ (by decide)) (.refl _))
  obtain ⟨hGives, hLots, -⟩ := draws_what_is_allowed c 1
  obtain ⟨hLength, hBound, -⟩ := hLots _ _ hLeads
  exact ⟨hAllows, (hGives _).2 ⟨rfl, hAllows⟩, _, hLeads, hLength, hBound 1 _ rfl⟩

end RandomConfig

end Connectives

import Connectives.Formula.Variables

/-!
# Connectives — what occurs in a formula, node by node

`Formula.vars` drops duplicates at every binary node and `Formula.connectives` once at the end. Which
names and symbols occur does not depend on that, so membership in either list is told by
the immediate operands alone.

* `mem_vars_*`, `mem_connectives_*` — membership, one lemma per node.
* `Formula.HasConstant` — ⊤ or ⟘ stands somewhere in the formula.
-/

namespace Connectives.Formula

-- ---------------------------------------------------------------------------
-- Variables
-- ---------------------------------------------------------------------------

@[simp] theorem not_mem_vars_top {v : String} : v ∉ top.vars := List.not_mem_nil

@[simp] theorem not_mem_vars_bottom {v : String} : v ∉ bottom.vars := List.not_mem_nil

@[simp] theorem mem_vars_var {v w : String} : v ∈ (var w).vars ↔ v = w :=
  List.mem_singleton

@[simp] theorem mem_vars_not {v : String} {f : Formula} : v ∈ (not f).vars ↔ v ∈ f.vars :=
  Iff.rfl

@[simp] theorem mem_vars_binary {v : String} {op : BinaryOp} {f g : Formula} :
    v ∈ (binary op f g).vars ↔ v ∈ f.vars ∨ v ∈ g.vars := by
  rw [vars, List.mem_eraseDups, List.mem_append]

-- ---------------------------------------------------------------------------
-- Connectives
-- ---------------------------------------------------------------------------

theorem mem_connectives {c : Connective} {f : Formula} :
    c ∈ f.connectives ↔ c ∈ f.connectiveOccurrences :=
  List.mem_eraseDups

@[simp] theorem mem_connectives_top {c : Connective} : c ∈ top.connectives ↔ c = .top := by
  rw [mem_connectives, connectiveOccurrences, List.mem_singleton]

@[simp] theorem mem_connectives_bottom {c : Connective} :
    c ∈ bottom.connectives ↔ c = .bottom := by
  rw [mem_connectives, connectiveOccurrences, List.mem_singleton]

@[simp] theorem not_mem_connectives_var {c : Connective} {v : String} :
    c ∉ (var v).connectives := by
  rw [mem_connectives, connectiveOccurrences]
  exact List.not_mem_nil

@[simp] theorem mem_connectives_not {c : Connective} {f : Formula} :
    c ∈ (not f).connectives ↔ c = .not ∨ c ∈ f.connectives := by
  rw [mem_connectives, connectiveOccurrences, List.mem_cons, mem_connectives]

@[simp] theorem mem_connectives_binary {c : Connective} {op : BinaryOp} {f g : Formula} :
    c ∈ (binary op f g).connectives ↔
      c = .binary op ∨ c ∈ f.connectives ∨ c ∈ g.connectives := by
  rw [mem_connectives, connectiveOccurrences, List.mem_cons, List.mem_append, mem_connectives,
    mem_connectives]

-- ---------------------------------------------------------------------------
-- Constants
-- ---------------------------------------------------------------------------

/-- Whether a constant stands somewhere in the formula. -/
def HasConstant (f : Formula) : Prop :=
  ∃ c ∈ f.connectives, c.arity = 0

instance (f : Formula) : Decidable f.HasConstant :=
  inferInstanceAs (Decidable (∃ c ∈ f.connectives, c.arity = 0))

theorem hasConstant_top : top.HasConstant :=
  ⟨.top, mem_connectives_top.2 rfl, rfl⟩

theorem hasConstant_bottom : bottom.HasConstant :=
  ⟨.bottom, mem_connectives_bottom.2 rfl, rfl⟩

theorem HasConstant.not {f : Formula} : f.HasConstant → (not f).HasConstant
  | ⟨c, hc, hArity⟩ => ⟨c, mem_connectives_not.2 (Or.inr hc), hArity⟩

theorem HasConstant.left {op : BinaryOp} {f g : Formula} :
    f.HasConstant → (binary op f g).HasConstant
  | ⟨c, hc, hArity⟩ => ⟨c, mem_connectives_binary.2 (Or.inr (Or.inl hc)), hArity⟩

theorem HasConstant.right {op : BinaryOp} {f g : Formula} :
    g.HasConstant → (binary op f g).HasConstant
  | ⟨c, hc, hArity⟩ => ⟨c, mem_connectives_binary.2 (Or.inr (Or.inr hc)), hArity⟩

end Connectives.Formula

import Connectives.Proofs.Conversion.Variables

/-!
# Connectives — restricted formulas from both sides

A member of a fragment can be looked at in two ways. As a formula, with the evidence forgotten, it
is printed and searched for variables by what `Formula` says of strengths and variables, all the way
down. By its own layer, the root is printed around operands that are still members, and parentheses
go by the strength that a member has of its own.

That both give the same is a fact about one layer. A layer knows its operands only by what `Operand`
asks of them, so it does not notice when they are exchanged for others that answer alike. A member
of a fragment and its formula do answer alike: their strengths agree root by root, their variables
by induction, and the text of a member is that of its formula.

* `Operand.Alike` — an exchange of operands that a layer does not notice.
* `Layer.render_map`, `Layer.vars_map` — the layer keeps its text and its variables.
* `Fragment.toFormula_alike` — forgetting the evidence is such an exchange.
* `Basis.restricted_looks_as_formula` — the members of the five restricted types from both sides.
-/

namespace Connectives

-- ---------------------------------------------------------------------------
-- Exchanging the operands of a layer
-- ---------------------------------------------------------------------------

section Exchange

variable {α β : Type}

/-- The layer with its operands exchanged, and the root as it was. -/
def Layer.map (φ : α → β) : Layer α → Layer β
  | top => top
  | bottom => bottom
  | var v => var v
  | not a => not (φ a)
  | binary op a b => binary op (φ a) (φ b)

variable [Operand α] [Operand β] {φ : α → β}

/-- Every operand answers as the one that it is exchanged for. -/
structure Operand.Alike (φ : α → β) : Prop where
  strength : ∀ a, Operand.strength (φ a) = Operand.strength a
  render : ∀ script a, Operand.render script (φ a) = Operand.render script a
  vars : ∀ a, Operand.vars (φ a) = Operand.vars a

/-- Parentheses stand where they stood, as they go by the strength of the operands. -/
theorem Layer.render_map (h : Operand.Alike φ) (script : Script) (l : Layer α) :
    (l.map φ).render script = l.render script := by
  cases l with
  | top | bottom | var => rfl
  | not a => simp only [map, render, h.strength, h.render]
  | binary op a b => simp only [map, render, h.strength, h.render]

theorem Layer.vars_map (h : Operand.Alike φ) (l : Layer α) : (l.map φ).vars = l.vars := by
  cases l with
  | top | bottom | var => rfl
  | not a => simp only [map, vars, h.vars]
  | binary op a b => simp only [map, vars, h.vars]

end Exchange

-- ---------------------------------------------------------------------------
-- A layer of formulas
-- ---------------------------------------------------------------------------

namespace Formula

theorem render_ofLayer (script : Script) (l : Layer Formula) :
    (ofLayer l).render script = l.render script := by
  cases l <;> rfl

theorem vars_ofLayer (l : Layer Formula) : (ofLayer l).vars = l.vars := by
  cases l <;> rfl

end Formula

-- ---------------------------------------------------------------------------
-- Members of a fragment
-- ---------------------------------------------------------------------------

namespace Fragment

variable {cs : List Connective}

theorem strength_toFormula (x : Fragment cs) : x.toFormula.strength = x.strength := by
  cases x <;> rfl

/-- A connective gets the same answers from a member of a fragment and from its formula. -/
theorem toFormula_alike : Operand.Alike (toFormula : Fragment cs → Formula) where
  strength := strength_toFormula
  render _ _ := rfl
  vars := vars_toFormula

/-- The formula of a member has the root of its layer, over the formulas of the operands. -/
theorem ofLayer_map_layer (x : Fragment cs) :
    Formula.ofLayer (x.layer.map toFormula) = x.toFormula := by
  cases x <;> rfl

theorem render_layer (script : Script) (x : Fragment cs) :
    x.layer.render script = x.render script := by
  calc x.layer.render script
      = (x.layer.map toFormula).render script := (Layer.render_map toFormula_alike script _).symm
    _ = (Formula.ofLayer (x.layer.map toFormula)).render script :=
        (Formula.render_ofLayer script _).symm
    _ = x.toFormula.render script := by rw [ofLayer_map_layer]

theorem vars_layer (x : Fragment cs) : x.layer.vars = x.vars := by
  calc x.layer.vars
      = (x.layer.map toFormula).vars := (Layer.vars_map toFormula_alike _).symm
    _ = (Formula.ofLayer (x.layer.map toFormula)).vars := (Formula.vars_ofLayer _).symm
    _ = x.toFormula.vars := by rw [ofLayer_map_layer]
    _ = x.vars := x.vars_toFormula

end Fragment

-- ---------------------------------------------------------------------------
-- The five restricted types
-- ---------------------------------------------------------------------------

/--
**Restricted formulas look the same from both sides.** A member of a basis' restricted type has the
variables of the formula that it is. Its root, printed in either script as a connective over members
and with parentheses by their own strengths, has the text of the whole formula, and its variables.
-/
theorem Basis.restricted_looks_as_formula (b : Basis) (x : b.Restricted) :
    x.vars = x.toFormula.vars ∧
      (∀ script, x.layer.render script = x.render script) ∧ x.layer.vars = x.vars := by
  refine ⟨?_, fun script => ?_, ?_⟩
  · rw [Fragment.vars_toFormula]
  · exact x.render_layer script
  · exact x.vars_layer

-- negation is the stronger one: its operand stands in parentheses here, and it needs none itself
example :
    (NotAnd.not (NotAnd.and (.var "p") (NotAnd.not (.var "q")))).layer.render .symbols =
      "¬(p ∧ ¬q)" := by decide

end Connectives

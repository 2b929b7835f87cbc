import Connectives.Formula.Printer
import Connectives.Formula.Variables

/-!
# Connectives — one layer of a formula

A `Layer` is the root of a formula over operands of any kind: variables, formulas, or the formulas
of a fragment. It is printed and searched for variables by what its operands say of themselves, so
a fragment can be looked at through its own types without a detour through `Formula`.
-/

namespace Connectives

/-- What a connective asks of its operands. -/
class Operand (α : Type) where
  /-- How tightly the operand holds together. -/
  strength : α → Nat
  /-- The text of the operand. -/
  render : Script → α → String
  /-- The variables of the operand, each once, by first occurrence. -/
  vars : α → List String

/-- A name stands for the variable of that name. -/
instance : Operand String where
  strength _ := Strength.atom
  render _ v := v
  vars v := [v]

instance : Operand Formula where
  strength := Formula.strength
  render := Formula.render
  vars := Formula.vars

/-- A variable, a constant, or a connective with its operands. -/
inductive Layer (α : Type) where
  | top
  | bottom
  | var (name : String)
  | not (operand : α)
  | binary (op : BinaryOp) (left right : α)
  deriving DecidableEq, Repr

namespace Layer

variable {α : Type}

/-- The operands, left to right. -/
def operands : Layer α → List α
  | top | bottom | var _ => []
  | not a => [a]
  | binary _ a b => [a, b]

/-- The layer of a connective, if the number of operands fits. -/
def ofConnective? : Connective → List α → Option (Layer α)
  | .top, [] => some top
  | .bottom, [] => some bottom
  | .not, [a] => some (not a)
  | .binary op, [a, b] => some (binary op a b)
  | _, _ => none

variable [Operand α]

/-- The text of the layer, with parentheses by the strength of its operands. -/
def render (script : Script) : Layer α → String
  | top => Connective.top.text script
  | bottom => Connective.bottom.text script
  | var v => v
  | not a => negationText script (Operand.strength a) (Operand.render script a)
  | binary op a b =>
    binaryText script op (Operand.strength a) (Operand.render script a)
      (Operand.strength b) (Operand.render script b)

/-- The variables of the layer, each once, by first occurrence. -/
def vars : Layer α → List String
  | top | bottom => []
  | var v => [v]
  | not a => Operand.vars a
  | binary _ a b => (Operand.vars a ++ Operand.vars b).eraseDups

end Layer

/-- The formula of a layer of formulas. -/
def Formula.ofLayer : Layer Formula → Formula
  | .top => top
  | .bottom => bottom
  | .var v => var v
  | .not f => not f
  | .binary op f g => binary op f g

end Connectives

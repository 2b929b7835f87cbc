import Connectives.Formula.Layer

/-!
# Connectives — fragments

A `Fragment cs` is a formula whose connectives all come from the list `cs`. Each node carries the
evidence, so a formula outside the fragment cannot be written down. A fragment has its own
strength and variables; it prints as the formula that it is.

* `Fragment.toFormula` — the formula, with the evidence forgotten.
* `Fragment.ofFormula` — the way back, or the first connective that is not in the list.
-/

namespace Connectives

/-- A formula over the connectives of a list. -/
inductive Fragment (cs : List Connective) where
  | top (mem : Connective.top ∈ cs)
  | bottom (mem : Connective.bottom ∈ cs)
  | var (name : String)
  | not (mem : Connective.not ∈ cs) (operand : Fragment cs)
  | binary (op : BinaryOp) (mem : Connective.binary op ∈ cs) (left right : Fragment cs)

namespace Fragment

variable {cs : List Connective}

/-- The formula, with the evidence forgotten. -/
def toFormula : Fragment cs → Formula
  | top _ => .top
  | bottom _ => .bottom
  | var v => .var v
  | not _ x => .not x.toFormula
  | binary op _ x y => .binary op x.toFormula y.toFormula

/-- The formula as a member of the fragment, or the connective outside of it that comes first,
root first and left before right. -/
def ofFormula : Formula → Except Connective (Fragment cs)
  | .top => if h : Connective.top ∈ cs then .ok (top h) else .error .top
  | .bottom => if h : Connective.bottom ∈ cs then .ok (bottom h) else .error .bottom
  | .var v => .ok (var v)
  | .not f =>
    if h : Connective.not ∈ cs then
      match ofFormula f with
      | .ok x => .ok (not h x)
      | .error c => .error c
    else .error .not
  | .binary op f g =>
    if h : Connective.binary op ∈ cs then
      match ofFormula f with
      | .error c => .error c
      | .ok x =>
        match ofFormula g with
        | .error c => .error c
        | .ok y => .ok (binary op h x y)
    else .error (.binary op)

/-- How tightly the root binds. -/
def strength : Fragment cs → Nat
  | top _ | bottom _ | var _ => Strength.atom
  | not _ _ => Strength.negation
  | binary op _ _ _ => op.strength

/-- The variables, each once, by first occurrence. -/
def vars : Fragment cs → List String
  | top _ | bottom _ => []
  | var v => [v]
  | not _ x => x.vars
  | binary _ _ x y => (x.vars ++ y.vars).eraseDups

/-- The text, which is that of the formula. -/
def render (script : Script) (x : Fragment cs) : String :=
  x.toFormula.render script

instance : Operand (Fragment cs) where
  strength := strength
  render := render
  vars := vars

/-- The root with its operands. -/
def layer : Fragment cs → Layer (Fragment cs)
  | top _ => .top
  | bottom _ => .bottom
  | var v => .var v
  | not _ x => .not x
  | binary op _ x y => .binary op x y

end Fragment

end Connectives

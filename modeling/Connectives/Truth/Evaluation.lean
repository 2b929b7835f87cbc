import Connectives.Formula.Basic
import Connectives.Truth.Assignment

/-!
# Connectives — the value of a formula

A formula is evaluated from left to right under an assignment that need not cover its variables.
A right operand is not looked at when the left one settles the value, so a variable without
a value goes unnoticed there; ⊕ and ⇔ are never settled by one operand.
-/

namespace Connectives

/-- The largest number of variables whose assignments are enumerated. -/
def maxEnumerated : Nat := 127

/-- Why a question about truth has no answer. -/
inductive TruthError where
  /-- The formula asks for a variable without a value. -/
  | unassigned (name : String)
  /-- There are too many variables to go through all assignments. -/
  | tooManyVariables (count : Nat)
  deriving DecidableEq, Repr

namespace TruthError

/-- The message for a reader. -/
def message : TruthError → String
  | unassigned name => s!"variable `{name}` is not assigned a truth value"
  | tooManyVariables count =>
    s!"cannot enumerate the assignments of {count} variables; at most {maxEnumerated} are supported"

instance : ToString TruthError where
  toString := message

end TruthError

/-- The truth function of a binary connective. -/
def BinaryOp.apply : BinaryOp → Bool → Bool → Bool
  | .and, x, y => x && y
  | .or, x, y => x || y
  | .implies, x, y => !x || y
  | .xor, x, y => x != y
  | .iff, x, y => x == y
  | .nand, x, y => !(x && y)
  | .nor, x, y => !(x || y)

/-- The value of a connective whose left operand alone settles it. -/
def BinaryOp.settled? : BinaryOp → Bool → Option Bool
  | .and, false => some false
  | .or, true => some true
  | .implies, false => some true
  | .nand, false => some true
  | .nor, true => some false
  | _, _ => none

/-- The value of a formula, or the first variable that is missing. -/
def Formula.evaluate (a : Assignment) : Formula → Except TruthError Bool
  | .top => .ok true
  | .bottom => .ok false
  | .var v =>
    match a.get? v with
    | some b => .ok b
    | none => .error (.unassigned v)
  | .not f =>
    match f.evaluate a with
    | .ok x => .ok !x
    | .error e => .error e
  | .binary op f g =>
    match f.evaluate a with
    | .error e => .error e
    | .ok x =>
      match op.settled? x with
      | some value => .ok value
      | none =>
        match g.evaluate a with
        | .ok y => .ok (op.apply x y)
        | .error e => .error e

end Connectives

import Connectives.Formula.Basic
import Connectives.Random.Draw

/-!
# Connectives — random formulas

Formulas for trying out what should hold of every formula. They use all connectives, go no deeper
than they are asked to, and have variables `p0`, `p1` and so on.
-/

namespace Connectives

/-- What random formulas look like. -/
structure RandomConfig where
  /-- Equal seeds give equal formulas. -/
  seed : Nat := 0
  /-- The greatest depth of a formula. -/
  depth : Nat := 5
  /-- The number of different variables. One is there even where none is asked for. -/
  vars : Nat := 3
  /-- Whether ⊤ and ⟘ may occur. -/
  constants : Bool := true
  deriving DecidableEq, Repr

namespace RandomConfig

/-- The name of a variable. -/
def varName (n : Nat) : String :=
  s!"p{n}"

/-- A variable, each as likely as the others. -/
def drawVar (c : RandomConfig) : Draw Formula := do
  return .var (varName (← Draw.choose (max c.vars 1)))

/-- A variable or, if they are allowed, in one of ten cases a constant. -/
def drawLeaf (c : RandomConfig) : Draw Formula := do
  if c.constants then
    if ← Draw.toss 1 then
      return if ← Draw.toss 5 then .top else .bottom
    else c.drawVar
  else c.drawVar

/-- The binary connectives in the order in which they are picked. -/
def binaryOps : List BinaryOp :=
  [.and, .or, .implies, .xor, .iff, .nand, .nor]

/-- A formula no deeper than this. In two of ten cases it is a leaf; otherwise each connective
with operands is as likely as the others. -/
def drawFormula (c : RandomConfig) : Nat → Draw Formula
  | 0 => c.drawLeaf
  | depth + 1 => do
    if ← Draw.toss 2 then c.drawLeaf
    else
      match ← Draw.choose 8 with
      | 0 => return .not (← drawFormula c depth)
      | choice + 1 =>
        let left ← drawFormula c depth
        let right ← drawFormula c depth
        return .binary (binaryOps[choice]?.getD .nor) left right

/-- The next `count` formulas of a generator. -/
def formulasFrom {σ : Type} (c : RandomConfig) (next : σ → Nat × σ) : Nat → σ → List Formula
  | 0, _ => []
  | count + 1, s =>
    let (f, s) := (c.drawFormula c.depth).run next s
    f :: formulasFrom c next count s

/-- The first `count` formulas. -/
def formulas (c : RandomConfig) (count : Nat) : List Formula :=
  c.formulasFrom Seed.next count (.ofNat c.seed)

end RandomConfig

end Connectives

/-!
# Connectives — formulas

Propositional formulas over every usual connective. A formula owns its operands, so a node with a
missing operand cannot be written down.

* `BinaryOp`, `Connective` — the symbols, in the order in which formulas are compared.
* `Formula` — the trees.
* `Formula.strength` — how tightly the root of a formula binds; printing and parsing rest on it.
-/

namespace Connectives

-- ---------------------------------------------------------------------------
-- Symbols
-- ---------------------------------------------------------------------------

/-- A connective with two operands. -/
inductive BinaryOp where
  | and
  | or
  | implies
  | xor
  | iff
  | nand
  | nor
  deriving DecidableEq, Repr

/-- A logical constant or connective. -/
inductive Connective where
  | top
  | bottom
  | not
  | binary (op : BinaryOp)
  deriving DecidableEq, Repr

/-- The place of a binary connective among its peers. -/
def BinaryOp.rank : BinaryOp → Nat
  | .and => 0
  | .or => 1
  | .implies => 2
  | .xor => 3
  | .iff => 4
  | .nand => 5
  | .nor => 6

/-- The place of a connective among all connectives. -/
def Connective.rank : Connective → Nat
  | .top => 0
  | .bottom => 1
  | .not => 2
  | .binary op => 3 + op.rank

/-- The number of operands. -/
def Connective.arity : Connective → Nat
  | .top | .bottom => 0
  | .not => 1
  | .binary _ => 2

/-- Every connective, by rank. -/
def Connective.all : List Connective :=
  [.top, .bottom, .not, .binary .and, .binary .or, .binary .implies, .binary .xor, .binary .iff,
    .binary .nand, .binary .nor]

-- ---------------------------------------------------------------------------
-- Strength
-- ---------------------------------------------------------------------------

/-- The strength of a variable or constant, which nothing can split. -/
def Strength.atom : Nat := 6

/-- The strength of a negation. -/
def Strength.negation : Nat := 5

/-- How tightly a binary connective holds its operands; the greater number binds first. -/
def BinaryOp.strength : BinaryOp → Nat
  | .and | .nand => 4
  | .or | .xor | .nor => 3
  | .implies => 2
  | .iff => 1

/-- Whether a chain of connectives of this strength groups from the left. -/
def BinaryOp.groupsLeft : BinaryOp → Bool
  | .implies | .iff => false
  | _ => true

-- ---------------------------------------------------------------------------
-- Trees
-- ---------------------------------------------------------------------------

/-- A propositional formula. Variables are known by their names. -/
inductive Formula where
  | top
  | bottom
  | var (name : String)
  | not (operand : Formula)
  | binary (op : BinaryOp) (left right : Formula)
  deriving DecidableEq, Repr

namespace Formula

/-- The connective at the root; a variable has none. -/
def root : Formula → Option Connective
  | top => some .top
  | bottom => some .bottom
  | var _ => none
  | not _ => some .not
  | binary op _ _ => some (.binary op)

/-- The immediate operands, left to right. -/
def operands : Formula → List Formula
  | top | bottom | var _ => []
  | not f => [f]
  | binary _ f g => [f, g]

/-- How tightly the root binds. -/
def strength : Formula → Nat
  | top | bottom | var _ => Strength.atom
  | not _ => Strength.negation
  | binary op _ _ => op.strength

/-- The length of the longest path from the root to a leaf. -/
def depth : Formula → Nat
  | top | bottom | var _ => 0
  | not f => f.depth + 1
  | binary _ f g => max f.depth g.depth + 1

/-- Whether the formula is a variable. -/
def isVar (f : Formula) : Bool :=
  f.root.isNone

/-- Whether the root is a connective with `n` operands. -/
def hasArity (f : Formula) (n : Nat) : Bool :=
  f.root.any (·.arity == n)

/-- Whether the formula is one of the two constants. -/
def isConstant (f : Formula) : Bool :=
  f.hasArity 0

/-- Whether the root is a negation. -/
def isUnary (f : Formula) : Bool :=
  f.hasArity 1

/-- Whether the root is a binary connective. -/
def isBinary (f : Formula) : Bool :=
  f.hasArity 2

end Formula

end Connectives

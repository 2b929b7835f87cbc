import Connectives.Formula.Basic

/-!
# Connectives — printing

A formula prints in one of two scripts: mathematical symbols, or the ASCII spelling of each
connective. Parentheses are the same in both. They stand around

* the operand of a negation, unless it is a variable or a constant;
* an operand of a binary connective, if it is itself binary.

So the text never leans on how the connectives group among themselves.
-/

namespace Connectives

/-- A way to spell the connectives. -/
inductive Script where
  | symbols
  | ascii
  deriving DecidableEq, Repr

/-- The spelling of a binary connective. -/
def BinaryOp.text : Script → BinaryOp → String
  | .symbols, .and => "∧"
  | .symbols, .or => "∨"
  | .symbols, .implies => "→"
  | .symbols, .xor => "⊕"
  | .symbols, .iff => "⇔"
  | .symbols, .nand => "↑"
  | .symbols, .nor => "↓"
  | .ascii, .and => "&"
  | .ascii, .or => "|"
  | .ascii, .implies => "->"
  | .ascii, .xor => "+"
  | .ascii, .iff => "<=>"
  | .ascii, .nand => "-&"
  | .ascii, .nor => "-|"

/-- The spelling of a connective. -/
def Connective.text : Script → Connective → String
  | .symbols, .top => "⊤"
  | .symbols, .bottom => "⟘"
  | .symbols, .not => "¬"
  | .ascii, .top => "true"
  | .ascii, .bottom => "false"
  | .ascii, .not => "~"
  | script, .binary op => op.text script

/-- The text of an operand in a place that wants at least the strength `wanted`: an operand of
less strength stands in parentheses. -/
def operandText (wanted strength : Nat) (text : String) : String :=
  if strength < wanted then "(" ++ text ++ ")" else text

/-- The text of a negation whose operand has this strength and text. -/
def negationText (script : Script) (strength : Nat) (text : String) : String :=
  Connective.not.text script ++ operandText Strength.atom strength text

/-- The text of a binary connective between operands of these strengths and texts. -/
def binaryText (script : Script) (op : BinaryOp) (leftStrength : Nat) (left : String)
    (rightStrength : Nat) (right : String) : String :=
  operandText Strength.negation leftStrength left ++ " " ++ op.text script ++ " " ++
    operandText Strength.negation rightStrength right

/-- The text of a formula. -/
def Formula.render (script : Script) : Formula → String
  | .top => Connective.top.text script
  | .bottom => Connective.bottom.text script
  | .var v => v
  | .not f => negationText script f.strength (f.render script)
  | .binary op f g =>
    binaryText script op f.strength (f.render script) g.strength (g.render script)

instance : ToString Formula where
  toString := Formula.render .symbols

end Connectives

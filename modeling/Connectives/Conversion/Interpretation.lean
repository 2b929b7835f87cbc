import Connectives.Formula.Fragment

/-!
# Connectives — interpretations

An interpretation says how each connective is expressed in a fragment. A formula is converted by
replacing its connectives from the leaves up; variables stay.

A fragment without constants has no closed formula. There the constants are expressed over
a variable, the *witness*, of which the value does not matter.
-/

namespace Connectives

/-- How to express every connective over the connectives of a list. The constants may make use of
a variable. -/
structure Interpretation (cs : List Connective) where
  top : String → Fragment cs
  bottom : String → Fragment cs
  not : Fragment cs → Fragment cs
  binary : BinaryOp → Fragment cs → Fragment cs → Fragment cs

/-- The formula with its connectives expressed in the fragment, and constants over the witness. -/
def Interpretation.apply {cs : List Connective} (i : Interpretation cs) (witness : String) :
    Formula → Fragment cs
  | .top => i.top witness
  | .bottom => i.bottom witness
  | .var v => .var v
  | .not f => i.not (i.apply witness f)
  | .binary op f g => i.binary op (i.apply witness f) (i.apply witness g)

/-- The witness for a formula without variables. -/
def defaultWitness : String := "p"

/-- The variable over which the constants of a formula are expressed: its first one, if any. -/
def Formula.witness (f : Formula) : String :=
  f.vars.headD defaultWitness

end Connectives

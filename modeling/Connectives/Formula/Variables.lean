import Connectives.Formula.Basic

/-!
# Connectives — what occurs in a formula

* `Formula.vars` lists the variables of a formula, each once, by first occurrence from left to
  right. Duplicates are dropped at every binary node, so no intermediate list is longer than the
  number of variables of its operands.
* `Formula.connectives` lists its connectives, each once, root first.
-/

namespace Connectives.Formula

/-- The names of the variables, each once, in the order of their first occurrence. -/
def vars : Formula → List String
  | top | bottom => []
  | var v => [v]
  | not f => f.vars
  | binary _ f g => (f.vars ++ g.vars).eraseDups

/-- The connectives of all nodes, root first and left before right. -/
def connectiveOccurrences : Formula → List Connective
  | top => [.top]
  | bottom => [.bottom]
  | var _ => []
  | not f => .not :: f.connectiveOccurrences
  | binary op f g => .binary op :: (f.connectiveOccurrences ++ g.connectiveOccurrences)

/-- The connectives that occur, each once, in the order of their first occurrence. -/
def connectives (f : Formula) : List Connective :=
  f.connectiveOccurrences.eraseDups

end Connectives.Formula

import Connectives.Truth.Evaluation

/-!
# Connectives — going through all assignments

An `Enumeration` stands somewhere in the list of the assignments to some variables. It makes each
assignment only when it is asked for, so that a search over many variables may stop early. The
assignments come in the order of binary numbers, with the last variable as the lowest digit.
-/

namespace Connectives

/-- A place in the list of all assignments: `next` is the number of the one that comes next, and
`stop` how many there are. -/
structure Enumeration where
  vars : List String
  next : Nat
  stop : Nat
  deriving DecidableEq, Repr

namespace Enumeration

/-- The assignments to a list of variables from the first one on. -/
def ofVars (vars : List String) : Except TruthError Enumeration :=
  if maxEnumerated < vars.length then .error (.tooManyVariables vars.length)
  else .ok ⟨vars, 0, Nat.pow 2 vars.length⟩

/-- The assignment with number `k`: each variable gets a binary digit of it, the first one the
highest. A variable that is listed more than once keeps the digit of its last place. -/
def row (vars : List String) (k : Nat) : Assignment :=
  .ofList (vars.zipIdx.map fun (v, i) => (v, k.testBit (vars.length - 1 - i)))

/-- The next assignment and what comes after it. -/
def next? (e : Enumeration) : Option (Assignment × Enumeration) :=
  if e.next < e.stop then some (row e.vars e.next, { e with next := e.next + 1 }) else none

/-- How many assignments are still to come. -/
def remaining (e : Enumeration) : Nat :=
  e.stop - e.next

/-- Each step takes one assignment off the list. -/
theorem next?_remaining {e rest : Enumeration} {a : Assignment} (h : e.next? = some (a, rest)) :
    rest.remaining < e.remaining := by
  unfold next? at h
  split at h
  · cases h
    simp only [remaining]
    omega
  · cases h

/-- The assignments that are still to come. -/
def toList (e : Enumeration) : List Assignment :=
  (List.range' e.next e.remaining).map (row e.vars)

end Enumeration

end Connectives

import Connectives.Formula.Printer
import Connectives.Formula.Variables
import Connectives.Text.Column
import Connectives.Truth.Enumeration

/-!
# Connectives — truth tables

* `Formula.truthValues` — the values of a formula under all assignments to its variables.
* `Formula.truthTable`, `TruthTable.render` — the same with the assignments beside them, as a table.
* `Formula.isTautology`, `isSatisfiable`, `isContradiction` — true under every, some, no assignment.
* `Formula.isEquivalent` — whether two formulas agree under every assignment to the variables of
  both; the search ends at the first assignment that tells them apart.
-/

namespace Connectives

-- ---------------------------------------------------------------------------
-- Values
-- ---------------------------------------------------------------------------

namespace Formula

/-- The values under all assignments to the variables of the formula, in the order of the
enumeration. -/
def truthValues (f : Formula) : Except TruthError (List Bool) := do
  let e ← Enumeration.ofVars f.vars
  e.toList.mapM f.evaluate

/-- Whether the formula is true under every assignment. -/
def isTautology (f : Formula) : Except TruthError Bool :=
  (·.all id) <$> f.truthValues

/-- Whether the formula is true under some assignment. -/
def isSatisfiable (f : Formula) : Except TruthError Bool :=
  (·.any id) <$> f.truthValues

/-- Whether the formula is true under no assignment. -/
def isContradiction (f : Formula) : Except TruthError Bool :=
  (! ·) <$> f.isSatisfiable

/-- Whether two formulas agree under the assignments that are still to come. -/
def agreeOn (f g : Formula) (e : Enumeration) : Except TruthError Bool :=
  match _ : e.next? with
  | none => .ok true
  | some (a, rest) =>
    match f.evaluate a with
    | .error err => .error err
    | .ok x =>
      match g.evaluate a with
      | .error err => .error err
      | .ok y => if x = y then agreeOn f g rest else .ok false
termination_by e.remaining
decreasing_by exact Enumeration.next?_remaining ‹_›

/-- Whether two formulas agree under every assignment to the variables of both. -/
def isEquivalent (f g : Formula) : Except TruthError Bool := do
  let e ← Enumeration.ofVars (f.vars ++ g.vars).eraseDups
  agreeOn f g e

end Formula

-- ---------------------------------------------------------------------------
-- Tables
-- ---------------------------------------------------------------------------

/-- A formula with its value under each assignment. A row holds the values of the variables in
column order, and the value of the formula. -/
structure TruthTable where
  vars : List String
  formula : Formula
  rows : List (List Bool × Bool)
  deriving DecidableEq

/-- The row of an assignment, with a column for each of the variables. -/
def Formula.truthRow (f : Formula) (vars : List String) (a : Assignment) :
    Except TruthError (List Bool × Bool) := do
  let value ← f.evaluate a
  return (vars.map fun v => (a.get? v).getD false, value)

/-- The truth table of a formula. -/
def Formula.truthTable (f : Formula) : Except TruthError TruthTable := do
  let vars := f.vars
  let e ← Enumeration.ofVars vars
  let rows ← e.toList.mapM (f.truthRow vars)
  return ⟨vars, f, rows⟩

namespace TruthTable

/-- The letter for a truth value. -/
def letter (b : Bool) : String :=
  if b then "T" else "F"

/-- What stands above the columns: the variables and the formula. -/
def headers (t : TruthTable) : List String :=
  t.vars ++ [t.formula.render .symbols]

/-- How wide each column is, without the blanks at its sides. -/
def widths (t : TruthTable) : List Nat :=
  t.headers.map String.length

/-- A cell of a column of this width. -/
def cell (text : String) (width : Nat) : String :=
  " " ++ Text.padRight width text ++ " "

/-- A line of the table. -/
def line (cells : List String) : String :=
  "|" ++ "|".intercalate cells ++ "|"

/-- The line that separates the headers from the rows. -/
def ruleLine (t : TruthTable) : String :=
  line (t.widths.map fun w => Text.replicate (w + 2) '-')

/-- The line of a row. -/
def rowLine (t : TruthTable) (row : List Bool × Bool) : String :=
  line (((row.1 ++ [row.2]).map letter).zipWith cell t.widths)

/-- The lines of the table. -/
def lines (t : TruthTable) : List String :=
  line (t.headers.zipWith cell t.widths) :: t.ruleLine :: t.rows.map t.rowLine

/-- The table as text, without a line end after the last row. -/
def render (t : TruthTable) : String :=
  "\n".intercalate t.lines

instance : ToString TruthTable where
  toString := render

end TruthTable

end Connectives

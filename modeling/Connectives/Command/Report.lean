import Connectives.Command.Failure
import Connectives.Command.Output
import Connectives.Conversion.Convert
import Connectives.Log.Event
import Connectives.Truth.Table

/-!
# Connectives — reports

What comes of the three subcommands: what they print, which events they announce, and whether they
fail in the end. For conversions, a block is printed for each formula: the formula, a line for each
basis with the result, and, if it is asked for, a line that says whether the result was found to
agree with the formula. Checking and printing truth values takes time and room that doubles with
each variable, so there is a limit to it.
-/

namespace Connectives

/-- The largest number of variables for which truth values are printed or compared. -/
def maxReported : Nat := 16

/-- How wide the names of bases are printed. -/
def nameWidth : Nat := 15

-- ---------------------------------------------------------------------------
-- Conversions
-- ---------------------------------------------------------------------------

/-- What comes of comparing a formula with its conversion. -/
inductive Verdict where
  | verified
  | failed
  /-- There are too many variables. -/
  | skipped (vars : Nat)
  deriving DecidableEq, Repr

namespace Verdict

/-- The text of a verdict. -/
def text : Verdict → String
  | verified => "verified"
  | failed => "failed"
  | skipped vars => s!"skipped ({vars} variables)"

/-- The style of a verdict. -/
def style : Verdict → Style
  | verified | skipped _ => .info
  | failed => .fail

end Verdict

/-- Whether a result agrees with the formula it was made from and keeps to the basis. -/
def Basis.verify (b : Basis) (f result : Formula) : Verdict :=
  let count := (f.vars ++ result.vars).eraseDups.length
  if maxReported < count then .skipped count
  else
    match f.isEquivalent result with
    | .ok true => if b.admits result then .verified else .failed
    | _ => .failed

/-- A formula expressed in a basis, with the verdict on it if one was asked for. -/
structure Conversion where
  basis : Basis
  result : Formula
  verdict? : Option Verdict
  deriving DecidableEq, Repr

namespace Conversion

/-- Converts a formula. -/
def make (verify : Bool) (f : Formula) (b : Basis) : Conversion :=
  let result := b.convert f
  ⟨b, result, if verify then some (b.verify f result) else none⟩

/-- The lines of a conversion. -/
def lines (c : Conversion) : Output :=
  [.style .basis, .text ("  " ++ Text.padRight nameWidth c.basis.name), .style .result,
    .line (c.result.render .symbols)] ++
    match c.verdict? with
    | none => []
    | some v => [.style v.style, .line ("  " ++ Text.padRight nameWidth "" ++ v.text)]

/-- Whether the result was found to be wrong. -/
def isFailed (c : Conversion) : Bool :=
  c.verdict? == some .failed

end Conversion

/-- The block of a formula. -/
def conversionBlock (f : Formula) (cs : List Conversion) : Output :=
  [.style .formula, .line (f.render .symbols)] ++ cs.flatMap Conversion.lines ++ [.line ""]

/-- What is printed for the conversions of several formulas. -/
def conversionOutput (blocks : List (Formula × List Conversion)) : Output :=
  [.style .info, .line s!"Converting {blocks.length} formulae:", .line ""] ++
    blocks.flatMap fun (f, cs) => conversionBlock f cs

-- ---------------------------------------------------------------------------
-- Tables
-- ---------------------------------------------------------------------------

/-- Why a table is not printed. -/
inductive TableError where
  | tooManyVariables (count : Nat)
  | noValues (reason : TruthError)
  deriving DecidableEq, Repr

/-- What is wrong, from the outermost reason to the innermost. -/
def TableError.messages : TableError → List String
  | tooManyVariables count =>
    [s!"the formula has {count} variables; truth tables are limited to {maxReported}"]
  | noValues reason => ["failed to build the truth table", reason.message]

/-- The truth table of a formula, if it is small enough to be printed. -/
def Formula.printableTable (f : Formula) : Except TableError TruthTable :=
  let count := f.vars.length
  if maxReported < count then .error (.tooManyVariables count)
  else f.truthTable.mapError .noValues

/-- The block of a formula with its table, or the reason why there is none. -/
def tableBlock (f : Formula) : Output :=
  [.style .formula, .line (f.render .symbols), .line ""] ++
    (match f.printableTable with
    | .ok table => [.style .result, .text table.render]
    | .error e => [.style .fail, .text (e.messages.headD "")]) ++
    [.line "", .line ""]

-- ---------------------------------------------------------------------------
-- Bases
-- ---------------------------------------------------------------------------

/-- The list of all bases with their connectives. -/
def basesOutput : Output :=
  Basis.all.flatMap fun b =>
    [.style .basis, .text (Text.padRight nameWidth b.name), .style .result,
      .line b.connectivesText]

-- ---------------------------------------------------------------------------
-- Reports
-- ---------------------------------------------------------------------------

/-- What comes of a subcommand when its input was in order. -/
structure Report where
  output : Output
  events : List Event
  failure? : Option Failure
  deriving DecidableEq, Repr

namespace Report

/-- The report on these formulas, each expressed in these bases. It is a failure if any result was
found to be wrong. -/
def ofConversions (bases : List Basis) (verify : Bool) (fs : List Formula) : Report :=
  let blocks := fs.map fun f => (f, bases.map (Conversion.make verify f))
  let failures := (blocks.flatMap (·.2)).countP Conversion.isFailed
  { output := conversionOutput blocks
    events := blocks.flatMap fun (f, cs) => cs.map fun c => Event.conversion c.basis f c.result
    failure? := if failures = 0 then none else some (.notVerified failures) }

/-- The report on the truth tables of these formulas. -/
def ofTables (fs : List Formula) : Report :=
  ⟨fs.flatMap tableBlock, [], none⟩

/-- The report on the bases. -/
def ofBases : Report :=
  ⟨basesOutput, [], none⟩

end Report

end Connectives

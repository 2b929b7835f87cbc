import Connectives.Command.Invocation
import Connectives.Command.Report
import Connectives.Command.Screen
import Connectives.Command.Surroundings

/-!
# Connectives — carrying out an invocation

The command first prints its banner, then creates the log, then reads the input, and only when all
of it has been read as formulas does it print any more. `Invocation.run` says what is printed, how
it ends, and what is in the log, all as a function of what there is at the start.
-/

namespace Connectives

/-- Carries out a task. -/
def Task.perform (s : Surroundings) : Task → Except Failure Report
  | convert input? targets verify => do
    return .ofConversions targets verify (← s.formulas input?)
  | table input? => do
    return .ofTables (← s.formulas input?)
  | bases => .ok .ofBases

/-- The banner that is printed first. -/
def banner : String :=
  Text.unlines
    ["",
      "     ┌───────────────────────────────┐",
      "     │  ¬ ∧ ∨   ¬ ∧   ↑   → ¬   → ⟘  │",
      "     │ ───────── b a s i s ───────── │",
      "     └───────────────────────────────┘"]

/-- How a run ends: what is printed, the reason if it fails, and the log with its path if one was
created. -/
structure Outcome where
  output : Output
  failure? : Option Failure
  log? : Option (String × Log)

namespace Invocation

/-- What is printed before anything else. -/
def opening (i : Invocation) : Output :=
  if i.color then [.style .logo, .line banner] else []

/-- The output of a task as the invocation wants it. -/
def dress (i : Invocation) (output : Output) : Output :=
  if i.color then output else output.withoutStyles

/-- Creates the log, if there is to be one. -/
def openLog (i : Invocation) (s : Surroundings) :
    Except Failure (Surroundings × Option String) :=
  match i.log? with
  | none => .ok (s, none)
  | some path =>
    match s.create (s.logPath path) with
    | .ok s' => .ok (s', some (s.logPath path))
    | .error reason => .error (.logNotCreated reason)

/-- Carries out an invocation. -/
def run (i : Invocation) (s : Surroundings) : Outcome :=
  match i.openLog s with
  | .error failure => ⟨i.opening, some failure, none⟩
  | .ok (s', path?) =>
    match i.task.perform s' with
    | .error failure => ⟨i.opening, some failure, path?.map (·, .empty)⟩
    | .ok report =>
      ⟨i.opening ++ i.dress report.output, report.failure?,
        path?.map (·, Log.empty.receiveAll report.events)⟩

/-- What is written on a screen. In the end it takes back what it has been told, unless nothing was
to be coloured. -/
def written (i : Invocation) (screen : Screen) (outcome : Outcome) : String :=
  outcome.output.render screen ++ if i.color then screen.reset else ""

end Invocation

end Connectives

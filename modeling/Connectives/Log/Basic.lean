import Connectives.Log.Event
import Connectives.Text.Lines

/-!
# Connectives — the log of conversions

A `Log` is a file that takes one line for each conversion that is announced, and nothing for other
events. A log that cannot be written stays as it is, which is no failure.
-/

namespace Connectives

/-- The name of the log in a directory. -/
def defaultLogName : String := "log.json"

/-- A file with the lines that it holds. -/
structure Log where
  writable : Bool
  lines : List String
  deriving DecidableEq, Repr

namespace Log

/-- A new file. -/
def empty : Log :=
  ⟨true, []⟩

/-- Takes an event. -/
def receive (log : Log) (e : Event) : Log :=
  match e.record? with
  | some r => if log.writable then { log with lines := log.lines ++ [r.line] } else log
  | none => log

/-- Takes events one after another. -/
def receiveAll (log : Log) (es : List Event) : Log :=
  es.foldl receive log

/-- What stands in the file. -/
def text (log : Log) : String :=
  Text.unlines log.lines

end Log

end Connectives

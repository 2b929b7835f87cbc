import Connectives.Grammar.Parser
import Connectives.Text.Lines

/-!
# Connectives — listings

A listing is a text with one formula per line. Blanks around a formula do not count, and neither do
empty lines or comments, which are lines that start with `//`. The lines that are left are
*significant*; they keep the numbers that they have among all lines.

A carriage return before the line feed is a blank, so either line end will do.
-/

namespace Connectives

namespace Listing

/-- A significant line: its number, counted from 1, and its text between the blanks. -/
structure Line where
  number : Nat
  text : String
  deriving DecidableEq, Repr

/-- Whether a line without blanks around it is more than a comment. -/
def isSignificant (line : List Char) : Bool :=
  !line.isEmpty && !(['/', '/'].isPrefixOf line)

/-- The significant lines of a text. -/
def significantLines (cs : List Char) : List Line :=
  ((Text.lines cs).zipIdx 1).filterMap fun (line, number) =>
    let text := Text.trimBlanks line
    if isSignificant text then some ⟨number, String.ofList text⟩ else none

/-- A line that is no formula. Columns are counted from the first character that is no blank. -/
structure Error where
  line : Nat
  fault : ParseError
  deriving DecidableEq, Repr

/-- What is wrong, from the outermost reason to the innermost. -/
def Error.messages (e : Error) : List String :=
  [s!"failed to parse the formula on line {e.line}", e.fault.message]

/-- The formula of a line. -/
def parseLine (line : Line) : Except Error Formula :=
  (parse line.text).mapError (Error.mk line.number)

/-- The formulas of a listing, or the first line that is none. -/
def parse (text : String) : Except Error (List Formula) :=
  (significantLines text.toList).mapM parseLine

end Listing

end Connectives

import Connectives.Grammar.Position
import Connectives.Grammar.Token
import Connectives.Text.Quoted

/-!
# Connectives — what can be wrong with a text

A `Fault` says why a text is no formula, and where. The place is a byte offset while a text is
being read, and a line and column once it is reported.
-/

namespace Connectives

/-- The reason why a text is no formula. `expected` lists the kinds of token that could have stood
at the place, once per spelling. -/
inductive Fault (Place : Type) where
  /-- A token that cannot come here. -/
  | unexpected (place : Place) (expected : List TokenKind) (found : String)
  /-- A character that starts no token. -/
  | invalid (place : Place)
  /-- The text ends too early. -/
  | incomplete (place : Place) (expected : List TokenKind)
  /-- A token after a whole formula. -/
  | extra (place : Place) (found : String)
  deriving DecidableEq, Repr

/-- The fault with its place told in another way. -/
def Fault.map {α β : Type} (f : α → β) : Fault α → Fault β
  | .unexpected place expected found => .unexpected (f place) expected found
  | .invalid place => .invalid (f place)
  | .incomplete place expected => .incomplete (f place) expected
  | .extra place found => .extra (f place) found

/-- A fault as it is reported. -/
abbrev ParseError := Fault Position

/-- The items as a choice in prose. -/
def choiceText : List String → String
  | [] => ""
  | [a] => a
  | [a, b] => a ++ " or " ++ b
  | items => ", ".intercalate items.dropLast ++ ", or " ++ items.getLastD ""

/-- The kinds as a choice in prose, where each kind is named once however many spellings it has. -/
def expectedText (expected : List TokenKind) : String :=
  choiceText (expected.map TokenKind.label).eraseDups

namespace ParseError

/-- The position in words. -/
def placeText (p : Position) : String :=
  s!"line {p.line}, column {p.column}"

/-- The message for a reader. -/
def message : ParseError → String
  | .unexpected place expected found =>
    s!"found `{Text.quoted found}` at {placeText place}; expecting {expectedText expected}"
  | .invalid place => s!"invalid token at {placeText place}"
  | .incomplete place expected =>
    s!"unexpected end of input at {placeText place}; expecting {expectedText expected}"
  | .extra place found => s!"unexpected token `{Text.quoted found}` at {placeText place}"

end ParseError

instance : ToString ParseError where
  toString := ParseError.message

end Connectives

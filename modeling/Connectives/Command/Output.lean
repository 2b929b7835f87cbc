/-!
# Connectives — styled output

What the command prints is text with styles set in between. A style holds for the text after it, and
says what that text is; how a screen shows this is up to the screen.
-/

namespace Connectives

/-- What a stretch of the output is. -/
inductive Style where
  | logo
  | info
  | formula
  | basis
  | result
  | fail
  deriving DecidableEq, Repr

/-- How heavy letters are. -/
inductive Weight where
  | normal
  | dim
  | bold
  deriving DecidableEq, Repr

/-- The number of a style's colour among the 256 usual ones. -/
def Style.color : Style → Nat
  | logo | info => 59
  | formula | basis | result => 252
  | fail => 9

/-- The weight of a style's letters. -/
def Style.weight : Style → Weight
  | logo => .dim
  | info | basis | fail => .bold
  | formula | result => .normal

/-- A part of the output. -/
inductive OutputPart where
  | style (s : Style)
  | text (s : String)
  deriving DecidableEq, Repr

/-- Text with styles. -/
abbrev Output := List OutputPart

/-- A line of text. -/
def OutputPart.line (s : String) : OutputPart :=
  text (s ++ "\n")

/-- The output with its text alone. -/
def Output.withoutStyles (output : Output) : Output :=
  output.filter fun
    | .style _ => false
    | .text _ => true

end Connectives

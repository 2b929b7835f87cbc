import Connectives.Command.Output
import Connectives.Text.Escape

/-!
# Connectives — screens

Screens differ in what they can be told and in how they are told it. What is written on a terminal
is text with commands in between. When a style is set, the terminal first takes back the one before
it, and then chooses the colour and the weight. A command that a screen does not know is left out,
and one that is no terminal knows none.

* `Screen` — what is written for each command.
* `Screen.plain`, `Screen.terminal`, `Screen.usual` — three screens.
* `Output.render` — what is written for an output.
-/

namespace Connectives

open Text (EscapeText)

/-- How a screen is told to choose a colour or a weight, and to take back what it has been told. -/
structure Screen where
  color : Nat → String
  weight : Weight → String
  reset : String
  color_escapes : ∀ n, EscapeText (color n)
  weight_escapes : ∀ w, EscapeText (weight w)
  reset_escapes : EscapeText reset

namespace Screen

/-- A screen that can be told nothing. -/
def plain : Screen where
  color _ := ""
  weight _ := ""
  reset := ""
  color_escapes _ := .empty
  weight_escapes _ := .empty
  reset_escapes := .empty

/-- The sequence that chooses one of eight colours. A bright colour is replaced by its darker twin,
and one that the terminal does not have leaves the colour as it is. -/
def colorSequence (color : Nat) : String :=
  let color := if 8 ≤ color ∧ color < 16 then color - 8 else color
  if color < 8 then "\x1b[3" ++ toString color ++ "m" else ""

theorem escapeText_colorSequence (n : Nat) : EscapeText (colorSequence n) := by
  have hColor (k : Nat) : EscapeText (if k < 8 then "\x1b[3" ++ toString k ++ "m" else "") := by
    split
    · have hDigits : ("3" ++ toString k).toList.all Char.isDigit = true := by
        rw [String.toList_append, List.all_append, Bool.and_eq_true]
        exact ⟨by decide, List.all_eq_true.2 fun _ => Text.isDigit_of_mem_toString⟩
      have hText := EscapeText.appearance _ hDigits
      rwa [← String.append_assoc] at hText
    · exact .empty
  exact hColor _

/-- The sequence that chooses a weight, where letters can be bold but not dim. -/
def weightSequence : Weight → String
  | .bold => "\x1b[1m"
  | .normal | .dim => ""

theorem escapeText_weightSequence (w : Weight) : EscapeText (weightSequence w) := by
  cases w with
  | normal | dim => exact .empty
  | bold => exact EscapeText.appearance "1" (by decide)

/-- A terminal with eight colours that takes nothing back. -/
def terminal : Screen where
  color := colorSequence
  weight := weightSequence
  reset := ""
  color_escapes := escapeText_colorSequence
  weight_escapes := escapeText_weightSequence
  reset_escapes := .empty

/-- The same terminal, if it can take back what it has been told. -/
def usual : Screen :=
  { terminal with
    reset := "\x1b[0m"
    reset_escapes := EscapeText.appearance "0" (by decide) }

/-- What is written when a style is set. -/
def styleSequence (screen : Screen) (s : Style) : String :=
  screen.reset ++ (screen.color s.color ++ screen.weight s.weight)

end Screen

/-- What is written for a part of the output. -/
def OutputPart.render (screen : Screen) : OutputPart → String
  | style s => screen.styleSequence s
  | text s => s

/-- What is written for an output. -/
def Output.render (screen : Screen) (output : Output) : String :=
  String.join (output.map (·.render screen))

end Connectives

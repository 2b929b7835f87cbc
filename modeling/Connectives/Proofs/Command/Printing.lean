import Connectives.Command.Run
import Connectives.Proofs.Text.Lines

/-!
# Connectives — what is printed

An output is text with styles in between. Where no styles are shown, what is printed are lines: for
conversions a line for each formula, a line for each result, and one more if the result was checked.

* `Output.render_withoutStyles` — output without styles is the same on every screen.
* `Conversion.printed`, `printedBlock`, `printedConversions` — the lines of conversions.
* `render_conversionOutput` — they are what is printed.
-/

namespace Connectives

namespace Output

variable (screen : Screen)

@[simp] theorem render_nil : render screen [] = "" := rfl

@[simp] theorem render_cons (part : OutputPart) (rest : Output) :
    render screen (part :: rest) = part.render screen ++ render screen rest := by
  rw [render, render, List.map_cons, String.join_cons]

@[simp] theorem render_append (a b : Output) :
    render screen (a ++ b) = render screen a ++ render screen b := by
  rw [render, render, render, List.map_append, String.join_append]

end Output

@[simp] theorem OutputPart.render_text (screen : Screen) (s : String) :
    (text s).render screen = s := rfl

@[simp] theorem OutputPart.render_line (screen : Screen) (s : String) :
    (line s).render screen = s ++ "\n" := rfl

@[simp] theorem OutputPart.render_style (s : Style) : (style s).render .plain = "" := rfl

/-- **Without styles every screen shows what a plain one shows in any case.** -/
theorem Output.render_withoutStyles (screen : Screen) (output : Output) :
    render screen output.withoutStyles = render .plain output := by
  unfold withoutStyles
  induction output with
  | nil => rfl
  | cons part rest ih =>
    cases part with
    | style s => simpa using ih
    | text s => simpa using ih

-- ---------------------------------------------------------------------------
-- Conversions
-- ---------------------------------------------------------------------------

/-- The line of a verdict, under the result that it is on. -/
def Verdict.line (v : Verdict) : String :=
  "  " ++ Text.padRight nameWidth "" ++ v.text

namespace Conversion

/-- The line of a result, with the name of the basis in front. -/
def resultLine (c : Conversion) : String :=
  "  " ++ Text.padRight nameWidth c.basis.name ++ c.result.render .symbols

/-- The lines that are printed for a conversion. -/
def printed (c : Conversion) : List String :=
  c.resultLine :: (c.verdict?.map Verdict.line).toList

theorem render_lines (c : Conversion) :
    Output.render .plain c.lines = Text.unlines c.printed := by
  obtain ⟨b, result, verdict?⟩ := c
  cases verdict? with
  | none => simp [lines, printed, resultLine, String.append_assoc]
  | some v => simp [lines, printed, resultLine, Verdict.line, String.append_assoc]

end Conversion

/-- The lines that are printed for a formula, up to the blank one after them. -/
def printedBlock (f : Formula) (cs : List Conversion) : List String :=
  f.render .symbols :: cs.flatMap Conversion.printed

theorem render_conversionBlock (f : Formula) (cs : List Conversion) :
    Output.render .plain (conversionBlock f cs) = Text.unlines (printedBlock f cs ++ [""]) := by
  have hLines : Output.render .plain (cs.flatMap Conversion.lines) =
      Text.unlines (cs.flatMap Conversion.printed) := by
    induction cs with
    | nil => rfl
    | cons c cs ih =>
      rw [List.flatMap_cons, List.flatMap_cons, Output.render_append, Text.unlines_append,
        c.render_lines, ih]
  rw [conversionBlock, printedBlock, Output.render_append, Output.render_append, hLines]
  simp [String.append_assoc]

/-- The lines that are printed for several formulas. -/
def printedConversions (blocks : List (Formula × List Conversion)) : List String :=
  s!"Converting {blocks.length} formulae:" :: "" ::
    blocks.flatMap fun (f, cs) => printedBlock f cs ++ [""]

/-- **What is printed for conversions are these lines.** -/
theorem render_conversionOutput (blocks : List (Formula × List Conversion)) :
    Output.render .plain (conversionOutput blocks) = Text.unlines (printedConversions blocks) := by
  have hBlocks : Output.render .plain (blocks.flatMap fun (f, cs) => conversionBlock f cs) =
      Text.unlines (blocks.flatMap fun (f, cs) => printedBlock f cs ++ [""]) := by
    induction blocks with
    | nil => rfl
    | cons block blocks ih =>
      rw [List.flatMap_cons, List.flatMap_cons, Output.render_append, Text.unlines_append,
        render_conversionBlock, ih]
  rw [conversionOutput, printedConversions, Output.render_append, hBlocks]
  simp only [Output.render_cons, Output.render_nil, OutputPart.render_style,
    OutputPart.render_line, Text.unlines_cons, String.append_assoc, String.empty_append]

end Connectives

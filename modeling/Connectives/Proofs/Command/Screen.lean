import Connectives.Proofs.Command.ConversionLog
import Connectives.Proofs.Command.Outcome
import Connectives.Proofs.Command.Printing
import Connectives.Proofs.Grammar.OneLine
import Connectives.Proofs.Text.Escape
import Connectives.Proofs.Truth.Table
import Mathlib.Data.List.Basic

/-!
# Connectives — what is read off a screen

On a terminal there are commands in between, and as long as the text holds none, they are all that is
deleted with the escape sequences and the shifts. It never does: what the command prints is made up
of its own words, of numbers, and of formulas, and no command begins anywhere in a formula.

* `Output.EscapeFree` — an output whose text holds no command.
* `Screen.withoutEscapes_render_append` — what is left of such an output.
* `escapeFree_render` — formulas that are read back hold no command.
* `Task.escapeFree_of_perform` — nor does what a task prints.
* `Invocation.withoutEscapes_written`, `Invocation.written_withoutStyles` — what is left of a run.
-/

namespace Connectives

open Text (BeginsCommand EscapeFree EscapeText withoutEscapes)

-- ---------------------------------------------------------------------------
-- Reading a screen
-- ---------------------------------------------------------------------------

/-- The text of an output holds no command. -/
def Output.EscapeFree (output : Output) : Prop :=
  ∀ s, .text s ∈ output → Text.EscapeFree s

namespace Output

@[simp] theorem escapeFree_nil : Output.EscapeFree [] := by
  simp [Output.EscapeFree]

@[simp] theorem escapeFree_style {s : Style} {rest : Output} :
    Output.EscapeFree (.style s :: rest) ↔ rest.EscapeFree := by
  simp [Output.EscapeFree]

@[simp] theorem escapeFree_text {s : String} {rest : Output} :
    Output.EscapeFree (.text s :: rest) ↔ Text.EscapeFree s ∧ rest.EscapeFree := by
  simp [Output.EscapeFree]

@[simp] theorem escapeFree_line {s : String} {rest : Output} :
    Output.EscapeFree (.line s :: rest) ↔ Text.EscapeFree s ∧ rest.EscapeFree := by
  have hEnd : Text.EscapeFree (s ++ "\n") ↔ Text.EscapeFree s := by
    have hNewline : ¬ BeginsCommand '\n' := by decide
    simp [Text.EscapeFree, or_imp, forall_and, hNewline]
  rw [← hEnd]
  exact escapeFree_text

theorem EscapeFree.append {a b : Output} (ha : a.EscapeFree) (hb : b.EscapeFree) :
    Output.EscapeFree (a ++ b) := by
  intro s hs
  exact (List.mem_append.1 hs).elim (ha s) (hb s)

theorem EscapeFree.flatMap {α : Type} {l : List α} {print : α → Output}
    (h : ∀ a ∈ l, (print a).EscapeFree) : Output.EscapeFree (l.flatMap print) := by
  intro s hs
  obtain ⟨a, ha, hs⟩ := List.mem_flatMap.1 hs
  exact h a ha s hs

theorem EscapeFree.render {output : Output} (h : output.EscapeFree) :
    Text.EscapeFree (output.render .plain) := by
  induction output with
  | nil => exact nofun
  | cons part output ih =>
    rw [render_cons]
    cases part with
    | style s => exact Text.escapeFree_empty.append (ih (escapeFree_style.1 h))
    | text s => exact (escapeFree_text.1 h).1.append (ih (escapeFree_text.1 h).2)

end Output

namespace Screen

variable (screen : Screen)

theorem escapeText_styleSequence (s : Style) : EscapeText (screen.styleSequence s) :=
  screen.reset_escapes.append ((screen.color_escapes _).append (screen.weight_escapes _))

/-- **Without commands, every screen shows what a plain one does.** -/
theorem withoutEscapes_render_append {output : Output} (h : output.EscapeFree) (rest : String) :
    withoutEscapes (output.render screen ++ rest) = output.render .plain ++ withoutEscapes rest := by
  induction output with
  | nil => simp
  | cons part output ih =>
    rw [Output.render_cons, Output.render_cons, String.append_assoc, String.append_assoc]
    cases part with
    | style s =>
      rw [OutputPart.render, OutputPart.render_style, String.empty_append,
        Text.withoutEscapes_append_of_escapeText (screen.escapeText_styleSequence s),
        ih (Output.escapeFree_style.1 h)]
    | text s =>
      obtain ⟨hText, hRest⟩ := Output.escapeFree_text.1 h
      rw [OutputPart.render_text, OutputPart.render_text,
        Text.withoutEscapes_append_of_escapeFree hText, ih hRest]

end Screen

-- ---------------------------------------------------------------------------
-- Formulas
-- ---------------------------------------------------------------------------

private theorem spellings_escapeFree : ∀ e ∈ spellings, EscapeFree e.1 := by
  decide +kernel

theorem Spells.not_beginsCommand {cs : List Char} {t : Token} (h : Spells cs t) :
    ∀ c ∈ cs, ¬ BeginsCommand c := by
  refine h.forall_mem spellings_escapeFree ?_
  rintro c hContinues (rfl | rfl | rfl) <;> exact absurd hContinues (by decide)

theorem ReadableName.escapeFree {v : String} (h : ReadableName v) : EscapeFree v :=
  (spells_var h).not_beginsCommand

/-- **A formula that is read back holds no command.** -/
theorem escapeFree_render {script : Script} {f : Formula} (hRead : parse (f.render script) = .ok f) :
    EscapeFree (f.render script) :=
  forall_mem_render (by decide) (fun _ _ h => h.not_beginsCommand) script
    ((parse_render_eq_ok_iff script f).1 hRead)

-- ---------------------------------------------------------------------------
-- Conversions
-- ---------------------------------------------------------------------------

theorem Verdict.escapeFree_text (v : Verdict) : EscapeFree v.text := by
  cases v with
  | verified | failed => decide
  | skipped vars =>
    have hFront : EscapeFree "skipped (" := .ofList (by decide)
    have hBack : EscapeFree " variables)" := .ofList (by decide)
    exact (hFront.append (.toString_nat vars)).append hBack

theorem Basis.escapeFree_name (b : Basis) : EscapeFree b.name := by
  cases b <;> decide

theorem Conversion.escapeFree_lines {c : Conversion}
    (hRead : parse (c.result.render .symbols) = .ok c.result) : c.lines.EscapeFree := by
  have hIndent : EscapeFree "  " := .ofList (by decide)
  refine .append ?_ ?_
  · simpa using ⟨hIndent.append (c.basis.escapeFree_name.padRight _), escapeFree_render hRead⟩
  · cases c.verdict? with
    | none => exact Output.escapeFree_nil
    | some v => simpa using (hIndent.append (Text.escapeFree_empty.padRight _)).append v.escapeFree_text

theorem escapeFree_conversionBlock {text : String} {f : Formula} (hRead : parse text = .ok f)
    (bases : List Basis) (verify : Bool) :
    (conversionBlock f (bases.map (.make verify f))).EscapeFree := by
  have hHead : Output.EscapeFree [.style .formula, .line (f.render .symbols)] := by
    simpa using escapeFree_render (parse_render_of_parse hRead .symbols)
  have hLines : Output.EscapeFree ((bases.map (.make verify f)).flatMap Conversion.lines) := by
    refine .flatMap fun c hc => ?_
    obtain ⟨b, -, rfl⟩ := List.mem_map.1 hc
    exact Conversion.escapeFree_lines (parse_render_convert hRead b .symbols)
  exact (hHead.append hLines).append (by simp)

-- ---------------------------------------------------------------------------
-- Tables
-- ---------------------------------------------------------------------------

namespace TruthTable

theorem escapeFree_line {cells : List String} (h : ∀ c ∈ cells, EscapeFree c) :
    EscapeFree (line cells) := by
  have hBar : EscapeFree "|" := .ofList (by decide)
  exact (hBar.append (hBar.intercalate h)).append hBar

theorem escapeFree_cells {texts : List String} (h : ∀ s ∈ texts, EscapeFree s) (widths : List Nat) :
    ∀ c ∈ texts.zipWith cell widths, EscapeFree c := by
  have hBlank : EscapeFree " " := .ofList (by decide)
  intro c hc
  rw [← List.map_uncurry_zip_eq_zipWith] at hc
  obtain ⟨⟨s, width⟩, hMem, rfl⟩ := List.mem_map.1 hc
  exact (hBlank.append ((h s (List.of_mem_zip hMem).1).padRight width)).append hBlank

/-- **A table holds no command** if its headers hold none. -/
theorem escapeFree_render {t : TruthTable} (h : ∀ s ∈ t.headers, EscapeFree s) :
    EscapeFree t.render := by
  have hEnd : EscapeFree "\n" := .ofList (by decide)
  have hRule : EscapeFree t.ruleLine := by
    refine escapeFree_line fun c hc => ?_
    obtain ⟨w, -, rfl⟩ := List.mem_map.1 hc
    exact .replicate (by decide)
  have hRow (row : List Bool × Bool) : EscapeFree (t.rowLine row) := by
    refine escapeFree_line (escapeFree_cells (fun s hs => ?_) _)
    obtain ⟨b, -, rfl⟩ := List.mem_map.1 hs
    cases b <;> decide
  refine hEnd.intercalate fun l hl => ?_
  rw [lines, List.mem_cons, List.mem_cons] at hl
  rcases hl with rfl | rfl | hl
  · exact escapeFree_line (escapeFree_cells h _)
  · exact hRule
  · obtain ⟨row, -, rfl⟩ := List.mem_map.1 hl
    exact hRow row

end TruthTable

/-- The columns of a truth table are the variables of the formula. -/
theorem Formula.exists_rows_of_truthTable {f : Formula} {table : TruthTable}
    (h : f.truthTable = .ok table) : ∃ rows, table = ⟨f.vars, f, rows⟩ := by
  rw [truthTable_eq] at h
  split at h
  · cases h
    exact ⟨_, rfl⟩
  · cases h

theorem Formula.headers_of_printableTable {f : Formula} {table : TruthTable}
    (h : f.printableTable = .ok table) : table.headers = f.vars ++ [f.render .symbols] := by
  unfold printableTable at h
  dsimp only at h
  split at h
  · cases h
  · obtain ⟨rows, rfl⟩ := exists_rows_of_truthTable (mapError_eq_ok_iff.1 h)
    rfl

theorem TableError.escapeFree_message (e : TableError) : EscapeFree (e.messages.headD "") := by
  cases e with
  | noValues reason =>
    show EscapeFree "failed to build the truth table"
    exact .ofList (by decide)
  | tooManyVariables count =>
    have hFront : EscapeFree "the formula has " := .ofList (by decide)
    have hBack : EscapeFree " variables; truth tables are limited to " := .ofList (by decide)
    exact ((hFront.append (.toString_nat count)).append hBack).append (.toString_nat maxReported)

theorem escapeFree_tableBlock {text : String} {f : Formula} (hRead : parse text = .ok f) :
    (tableBlock f).EscapeFree := by
  have hFormula := escapeFree_render (parse_render_of_parse hRead .symbols)
  have hHead : Output.EscapeFree [.style .formula, .line (f.render .symbols), .line ""] := by
    simpa using hFormula
  refine .append (hHead.append ?_) (by simp)
  cases hTable : f.printableTable with
  | error e => simpa using e.escapeFree_message
  | ok table =>
    have hHeaders : ∀ s ∈ table.headers, EscapeFree s := by
      rw [Formula.headers_of_printableTable hTable, List.forall_mem_append]
      exact ⟨fun v hv => (readableName_of_parse hRead v hv).escapeFree,
        List.forall_mem_singleton.2 hFormula⟩
    simpa using TruthTable.escapeFree_render hHeaders

-- ---------------------------------------------------------------------------
-- Reports
-- ---------------------------------------------------------------------------

theorem escapeFree_basesOutput : basesOutput.EscapeFree := by
  refine .flatMap fun b _ => ?_
  have hConnectives : EscapeFree b.connectivesText := by cases b <;> decide
  simpa using ⟨b.escapeFree_name.padRight _, hConnectives⟩

theorem Report.escapeFree_ofConversions {fs : List Formula} (hRead : ∀ f ∈ fs, ∃ l, parse l = .ok f)
    (bases : List Basis) (verify : Bool) : (ofConversions bases verify fs).output.EscapeFree := by
  have hFront : EscapeFree "Converting " := .ofList (by decide)
  have hBack : EscapeFree " formulae:" := .ofList (by decide)
  have hCount (n : Nat) : EscapeFree s!"Converting {n} formulae:" :=
    (hFront.append (.toString_nat n)).append hBack
  refine .append ?_ (.flatMap fun block hBlock => ?_)
  · simpa using hCount _
  · obtain ⟨f, hf, rfl⟩ := List.mem_map.1 hBlock
    obtain ⟨l, hRead⟩ := hRead f hf
    exact escapeFree_conversionBlock hRead bases verify

theorem Report.escapeFree_ofTables {fs : List Formula} (hRead : ∀ f ∈ fs, ∃ l, parse l = .ok f) :
    (ofTables fs).output.EscapeFree := by
  refine .flatMap fun f hf => ?_
  obtain ⟨l, hRead⟩ := hRead f hf
  exact escapeFree_tableBlock hRead

/-- **No task prints a command**, whatever its input is. -/
theorem Task.escapeFree_of_perform {t : Task} {s : Surroundings} {report : Report}
    (h : t.perform s = .ok report) : report.output.EscapeFree := by
  have hRead {input? : Option String} {fs : List Formula} (hFormulas : s.formulas input? = .ok fs) :
      ∀ f ∈ fs, ∃ l, parse l = .ok f := by
    obtain ⟨text, -, hListing⟩ := Surroundings.formulas_eq_ok_iff.1 hFormulas
    exact fun f hf => Listing.exists_parse_of_mem hListing hf
  cases t with
  | bases =>
    cases h
    exact escapeFree_basesOutput
  | table input? =>
    obtain ⟨fs, hFormulas, rfl⟩ := map_eq_ok_iff.1 h
    exact Report.escapeFree_ofTables (hRead hFormulas)
  | convert input? bases verify =>
    obtain ⟨fs, hFormulas, rfl⟩ := map_eq_ok_iff.1 h
    exact Report.escapeFree_ofConversions (hRead hFormulas) bases verify

-- ---------------------------------------------------------------------------
-- Runs
-- ---------------------------------------------------------------------------

namespace Invocation

theorem escapeFree_opening (i : Invocation) : i.opening.EscapeFree := by
  have hBanner : Text.EscapeFree banner := by
    refine .unlines ?_
    simp only [List.forall_mem_cons]
    exact ⟨.ofList (by decide), .ofList (by decide), .ofList (by decide), .ofList (by decide),
      .ofList (by decide), nofun⟩
  unfold opening
  split
  · simpa using hBanner
  · simp

theorem render_opening (i : Invocation) (screen : Screen) :
    i.opening.render screen =
      if i.color then screen.styleSequence .logo ++ (banner ++ "\n") else "" := by
  unfold opening
  split
  · rw [Output.render_cons, Output.render_cons, Output.render_nil, String.append_empty]
    rfl
  · rfl

@[simp] theorem dress_nil (i : Invocation) : i.dress [] = [] := by
  unfold dress
  split <;> rfl

theorem escapeFree_dress (i : Invocation) {output : Output} (h : output.EscapeFree) :
    (i.dress output).EscapeFree := by
  unfold dress
  split
  · exact h
  · exact fun s hs => h s (List.mem_filter.1 hs).1

theorem render_dress (i : Invocation) (output : Output) :
    (i.dress output).render .plain = output.render .plain := by
  unfold dress
  split
  · rfl
  · exact output.render_withoutStyles .plain

/-- **Without commands, every screen shows the banner and the text**, or without colour the text. -/
theorem withoutEscapes_written {i : Invocation} (screen : Screen) {o : Outcome} {body : Output}
    (hFree : body.EscapeFree) (hOutput : o.output = i.opening ++ i.dress body) :
    withoutEscapes (i.written screen o) =
      (if i.color then banner ++ "\n" else "") ++ body.render .plain := by
  have hOpening : i.opening.render .plain = if i.color then banner ++ "\n" else "" := by
    unfold opening
    split <;> simp
  have hReset : withoutEscapes (if i.color then screen.reset else "") = "" := by
    split
    · simpa using Text.withoutEscapes_append_of_escapeText screen.reset_escapes ""
    · rfl
  rw [written, hOutput, screen.withoutEscapes_render_append
    (i.escapeFree_opening.append (i.escapeFree_dress hFree)), hReset, String.append_empty,
    Output.render_append, hOpening, i.render_dress]

/-- Without colour there are no commands in the first place. -/
theorem written_withoutStyles {i : Invocation} (hColor : i.color = false) (screen : Screen)
    {o : Outcome} {body : Output} (hOutput : o.output = i.opening ++ i.dress body) :
    i.written screen o = body.render .plain := by
  have hNoColor : ¬ i.color = true := by simp [hColor]
  rw [written, if_neg hNoColor, hOutput, opening, if_neg hNoColor, dress, if_neg hNoColor,
    List.nil_append, body.render_withoutStyles screen, String.append_empty]

end Invocation

end Connectives

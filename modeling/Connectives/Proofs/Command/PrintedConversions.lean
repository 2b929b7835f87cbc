import Connectives.Proofs.Command.Verification
import Connectives.Proofs.Grammar.OneLine
import Mathlib.Data.List.Forall2

/-!
# Connectives — printed conversions are read back

A run that converts formulas prints a block of lines for each of them. No line of a block is blank,
and a blank line ends it, so the blocks can be told apart. The first line of a block is read back as
the formula, and each further one as a basis, by the name in its first columns, and as the
conversion to that basis, by the rest of it.

* `Basis.RowOf` — a line that holds a conversion.
* `Basis.BlockOf` — the lines of a block.
* `blockOf_printedBlock`, `filled_of_mem_printedBlock` — what is printed is of this form.
* `Invocation.convert_output` — what a run prints.
-/

namespace Connectives

/-- A line with something on it besides blanks. -/
def Filled (line : String) : Prop :=
  '\n' ∉ line.toList ∧ ∃ c ∈ line.toList, Text.isBlank c = false

namespace Basis

/-- A line that holds a formula expressed in a basis: after two blanks the name of the basis, filled
up with spaces to 15 columns, and then a text that is read as the conversion. -/
def RowOf (f : Formula) (line : String) (b : Basis) : Prop :=
  ∃ padding result, line = "  " ++ (b.name ++ padding) ++ result ∧
    (b.name ++ padding).length = 15 ∧ (∀ c ∈ padding.toList, c = ' ') ∧ ofName b.name = .ok b ∧
    parse result = .ok (b.convert f) ∧ b.admits (b.convert f) = true ∧
    ∀ ρ, (b.convert f).holds ρ = f.holds ρ

/-- The lines of a block: one that is read as the formula, and one for each basis. -/
def BlockOf (bases : List Basis) (block : List String) (f : Formula) : Prop :=
  ∃ head rows, block = head :: rows ∧ parse head = .ok f ∧ List.Forall₂ (RowOf f) rows bases

end Basis

-- ---------------------------------------------------------------------------
-- Lines
-- ---------------------------------------------------------------------------

/-- A printed formula fills a line, whatever is in front of it. -/
theorem filled_append_render {front : String} (hFront : OnlySpaces front) {script : Script}
    {f : Formula} (hRead : parse (f.render script) = .ok f) : Filled (front ++ f.render script) := by
  have hText := onlySpaces_render script (parse_render_eq_ok_iff script f |>.1 hRead)
  obtain ⟨c, hc, hBlank⟩ := exists_not_isBlank_of_parse hRead
  refine ⟨(hFront.append hText).not_newline_mem, c, ?_, hBlank⟩
  rw [String.toList_append]
  exact List.mem_append_right _ hc

/-- The name of a basis is never longer than its columns. -/
theorem Basis.length_padRight_name (b : Basis) :
    (Text.padRight nameWidth b.name).length = nameWidth := by
  cases b <;> decide

theorem Basis.onlySpaces_name (b : Basis) : OnlySpaces b.name := by
  cases b <;> decide

section Blocks

variable {text : String} {f : Formula} (hRead : parse text = .ok f)

include hRead

/-- **The line of a result is read back.** -/
theorem Basis.rowOf_resultLine (b : Basis) : b.RowOf f (Conversion.make false f b).resultLine :=
  ⟨_, _, rfl, b.length_padRight_name, fun _ => Text.mem_toList_replicate, b.ofName_name,
    parse_render_convert hRead b .symbols, b.admits_convert f, b.holds_convert f⟩

theorem filled_resultLine (b : Basis) : Filled (Conversion.make false f b).resultLine := by
  have hIndent : OnlySpaces "  " := by decide
  have hPadding (n : Nat) : OnlySpaces (Text.replicate n ' ') := fun _ hc _ =>
    Text.mem_toList_replicate hc
  exact filled_append_render (hIndent.append (b.onlySpaces_name.append (hPadding _)))
    (parse_render_convert hRead b .symbols)

/-- **So is a block**, formula and results. -/
theorem blockOf_printedBlock (bases : List Basis) :
    Basis.BlockOf bases (printedBlock f (bases.map (Conversion.make false f))) f := by
  refine ⟨_, bases.map fun b => (Conversion.make false f b).resultLine, ?_,
    parse_render_of_parse hRead .symbols, ?_⟩
  · rw [printedBlock, List.flatMap_map, List.map_eq_flatMap]
    rfl
  · rw [List.forall₂_map_left_iff, List.forall₂_same]
    exact fun b _ => b.rowOf_resultLine hRead

/-- **And none of its lines is blank.** -/
theorem filled_of_mem_printedBlock {bases : List Basis} {line : String}
    (hLine : line ∈ printedBlock f (bases.map (Conversion.make false f))) : Filled line := by
  rw [printedBlock, List.flatMap_map, List.mem_cons, List.mem_flatMap] at hLine
  rcases hLine with rfl | ⟨b, -, hLine⟩
  · rw [← String.empty_append (s := f.render .symbols)]
    exact filled_append_render (by decide) (parse_render_of_parse hRead .symbols)
  · rw [List.mem_singleton.1 hLine]
    exact filled_resultLine hRead b

end Blocks

-- ---------------------------------------------------------------------------
-- The output of a run
-- ---------------------------------------------------------------------------

/-- **A run that converts formulas prints them with their conversions, to be read back.** After the
first two lines there is a block for each formula, in the order of the input, with a line for each
basis, in the order in which they are asked for. A log makes no difference, as long as there is a
place for it that is not the input. The request can be written in words if its paths are plain. -/
theorem Invocation.convert_output (s : Surroundings) (input? log? : Option String)
    (requested : List Basis) (text : String) (fs : List Formula) (screen : Screen)
    (hInput : s.inputBytes? input? = some (Text.encodeUtf8 text))
    (hListing : Listing.parse text = .ok fs)
    (hCreates : ∀ path ∈ log?, ∃ s', s.create (s.logPath path) = .ok s')
    (hApart : ∀ path ∈ log?, input? ≠ some (s.logPath path)) :
    let request : Invocation := ⟨.convert input? requested false, false, log?⟩
    let bases := if requested.isEmpty then Basis.all else requested
    (request.PathsPlain → Invocation.ofWords request.words = .ok request.withBases) ∧
      (request.withBases.run s).failure? = none ∧
      ∃ blocks : List (List String),
        (request.withBases.run s).output.render screen =
          Text.unlines (s!"Converting {fs.length} formulae:" :: "" :: blocks.flatMap (· ++ [""])) ∧
        (∀ block ∈ blocks, ∀ line ∈ block, Filled line) ∧
        List.Forall₂ (Basis.BlockOf bases) blocks fs := by
  intro request bases
  obtain ⟨s', path?, hLog⟩ := exists_openLog_eq_ok (i := request.withBases) hCreates
  have hSame := inputBytes?_of_apart hApart hLog
  obtain ⟨hOutput, hNone⟩ := run_convert rfl hLog (hSame.trans hInput) hListing
  have hSource : ∀ f ∈ fs, ∃ l, parse l = .ok f := fun f => Listing.exists_parse_of_mem hListing
  refine ⟨ofWords_words, hNone, fs.map fun f => printedBlock f (bases.map (.make false f)),
    ?_, ?_, ?_⟩
  · -- without colours there is no banner, and no style
    have hPlain : (request.withBases.run s).output = (conversionOutput
        (fs.map fun f => (f, bases.map (Conversion.make false f)))).withoutStyles := hOutput
    rw [hPlain, Output.render_withoutStyles, render_conversionOutput, printedConversions,
      List.length_map, List.flatMap_map, List.flatMap_map]
  · intro block hMem line hLine
    obtain ⟨f, hf, rfl⟩ := List.mem_map.1 hMem
    obtain ⟨l, hRead⟩ := hSource f hf
    exact filled_of_mem_printedBlock hRead hLine
  · rw [List.forall₂_map_left_iff, List.forall₂_same]
    intro f hf
    obtain ⟨l, hRead⟩ := hSource f hf
    exact blockOf_printedBlock hRead bases

/-- A formula after a comment, with the same basis asked for twice, makes one block with two
lines that hold the same conversion. -/
theorem Invocation.convert_output_nand_twice :
    let s : Surroundings := ⟨[], fun p => if p = "in" then .file [47, 47, 10, 126, 112] else .vacant⟩
    let request : Invocation := ⟨.convert (some "in") [.nand, .nand] false, false, none⟩
    Invocation.ofWords ["--no-color", "convert", "--input", "in", "--basis", "nand", "--basis",
        "nand"] = .ok request ∧
      (request.run s).failure? = none ∧
      ∃ head row row', (request.run s).output.render .terminal =
          Text.unlines ["Converting 1 formulae:", "", head, row, row', ""] ∧
        Filled head ∧ parse head = .ok (.not (.var "p")) ∧
        Basis.nand.RowOf (.not (.var "p")) row ∧ Basis.nand.RowOf (.not (.var "p")) row' := by
  intro s request
  have hNot : parse "~p" = .ok (.not (.var "p")) :=
    (parse_render_eq_ok_iff .ascii (.not (.var "p"))).2 (by decide)
  have hListing : Listing.parse "//\n~p" = .ok [.not (.var "p")] := by
    have hLines : Listing.significantLines "//\n~p".toList = [⟨2, "~p"⟩] := by decide
    rw [Listing.parse_eq_ok_iff, hLines]
    simp [hNot]
  obtain ⟨hWords, hNone, blocks, hOutput, hFilled, hBlocks⟩ := convert_output s (some "in") none
    [.nand, .nand] _ _ .terminal (by decide) hListing nofun nofun
  have hPlain : request.PathsPlain := ⟨by rintro path ⟨⟩; decide, nofun⟩
  obtain ⟨block, blocks', ⟨head, rows, rfl, hHead, hRows⟩, hRest, rfl⟩ :=
    List.forall₂_cons_right_iff.1 hBlocks
  cases hRest
  obtain ⟨row, rows', hRow, hRows', rfl⟩ := List.forall₂_cons_right_iff.1 hRows
  obtain ⟨row', rows'', hRow', hEnd, rfl⟩ := List.forall₂_cons_right_iff.1 hRows'
  cases hEnd
  exact ⟨hWords hPlain, hNone, head, row, row', hOutput, hFilled _ List.mem_cons_self head
    List.mem_cons_self, hHead, hRow, hRow'⟩

end Connectives

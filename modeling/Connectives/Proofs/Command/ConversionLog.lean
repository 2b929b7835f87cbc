import Connectives.Command.Run
import Connectives.Proofs.Command.Words
import Connectives.Proofs.Conversion.Variables
import Connectives.Proofs.Grammar.RoundTrip
import Connectives.Proofs.Listing
import Connectives.Proofs.Log.Contents

/-!
# Connectives — the log of a run

A run that converts formulas leaves a line in the log for each formula and each basis, formula by
formula, and nothing else. Each line is read back as a record, and the texts in it are read back
as the formula and its conversion. Neither checking the results nor colours make a difference.

* `Invocation.run_log` — the log of a run whose input is in order.
* `parse_render_convert` — a converted formula is read back if the formula could be read.
* `getElem?_flatMap_map` — the place of a formula and a basis among the lines.
* `Invocation.convert_log` — what is in the log.
-/

namespace Connectives

-- ---------------------------------------------------------------------------
-- A run on input that is in order
-- ---------------------------------------------------------------------------

section Run

variable {s s' : Surroundings} {path text : String} {input? : Option String} {fs : List Formula}

theorem Surroundings.formulas_eq_ok (hText : s.inputText input? = .ok text)
    (hListing : Listing.parse text = .ok fs) : s.formulas input? = .ok fs := by
  rw [formulas, hText]
  exact mapError_eq_ok_iff.2 hListing

theorem Report.events_ofConversions (bases : List Basis) (verify : Bool) (fs : List Formula) :
    (Report.ofConversions bases verify fs).events =
      fs.flatMap fun f => bases.map fun b => .conversion b f (b.convert f) := by
  simp only [Report.ofConversions, List.flatMap_map, List.map_map]
  rfl

/-- When the input is in order, the log takes the events of all conversions. -/
theorem Invocation.run_log {bases : List Basis} {verify color : Bool}
    (hCreate : s.create (s.logPath path) = .ok s') (hFormulas : s'.formulas input? = .ok fs) :
    (Invocation.run ⟨.convert input? bases verify, color, some path⟩ s).log? =
      some (s.logPath path, Log.empty.receiveAll
        (fs.flatMap fun f => bases.map fun b => .conversion b f (b.convert f))) := by
  have hTask : Task.perform s' (.convert input? bases verify) =
      .ok (.ofConversions bases verify fs) := by
    rw [Task.perform, hFormulas]
    rfl
  rw [run, openLog]
  dsimp only
  rw [hCreate]
  dsimp only
  rw [hTask]
  dsimp only
  rw [Report.events_ofConversions]
  rfl

end Run

-- ---------------------------------------------------------------------------
-- Reading the log
-- ---------------------------------------------------------------------------

/-- Conversion adds no name that cannot be read, so what it makes of a formula that was read is
read back. -/
theorem parse_render_convert {text : String} {f : Formula} (h : parse text = .ok f) (b : Basis)
    (script : Script) : parse ((b.convert f).render script) = .ok (b.convert f) := by
  rw [parse_render_eq_ok_iff, Basis.vars_convert]
  intro v hv
  split at hv
  · exact readableName_of_parse h v hv
  · have hReadable : ReadableName defaultWitness := by decide
    rwa [List.mem_singleton.1 hv]

/-- The lines of a log of conversions. -/
theorem Log.lines_conversions (bases : List Basis) (fs : List Formula) :
    Text.lines (Log.empty.receiveAll
        (fs.flatMap fun f => bases.map fun b => .conversion b f (b.convert f))).text.toList =
      fs.flatMap fun f => bases.map fun b =>
        (ConversionRecord.ofConversion b f (b.convert f)).line.toList := by
  rw [Log.lines_text, List.filterMap_flatMap]
  simp only [List.filterMap_map, Function.comp_def, Event.record?_conversion, List.map_flatMap]
  simp [Function.comp_def]

section Table

variable {α β γ : Type} (g : α → β → γ) (l : List α) (m : List β)

theorem length_flatMap_map : (l.flatMap fun a => m.map (g a)).length = l.length * m.length := by
  induction l with
  | nil => simp
  | cons a l ih =>
    rw [List.flatMap_cons, List.length_append, ih, List.length_map, List.length_cons,
      Nat.succ_mul, Nat.add_comm]

/-- Row by row, the items stand at the places that their numbers tell. -/
theorem getElem?_flatMap_map {i j : Nat} {a : α} {b : β} (ha : l[i]? = some a)
    (hb : m[j]? = some b) :
    (l.flatMap fun a => m.map (g a))[i * m.length + j]? = some (g a b) := by
  obtain ⟨hj, -⟩ := List.getElem?_eq_some_iff.1 hb
  induction l generalizing i with
  | nil => cases ha
  | cons a' l ih =>
    rw [List.flatMap_cons]
    cases i with
    | zero =>
      cases ha
      rw [Nat.zero_mul, Nat.zero_add, List.getElem?_append_left (by rw [List.length_map]; exact hj),
        List.getElem?_map, hb]
      rfl
    | succ i =>
      -- the row of the first item comes before it
      have hPlace : (i + 1) * m.length + j = m.length + (i * m.length + j) := by
        rw [Nat.succ_mul]
        omega
      rw [hPlace, List.getElem?_append_right (by rw [List.length_map]; omega), List.length_map,
        Nat.add_sub_cancel_left]
      exact ih ha

end Table

-- ---------------------------------------------------------------------------
-- The log of a run
-- ---------------------------------------------------------------------------

/-- **A run that converts formulas leaves one line for each formula and each basis**, and nothing
else, whatever it is to check and to show. The formulas are those that are there once the log has been
created, which empties the input if it has the same path; no two paths lead to the same place. The
request can be written in words, as long as its paths are plain. -/
theorem Invocation.convert_log (s s' : Surroundings) (path text : String) (input? : Option String)
    (requested : List Basis) (verify color : Bool) (fs : List Formula)
    (hCreate : s.create (s.logPath path) = .ok s') (hText : s'.inputText input? = .ok text)
    (hLines : (Listing.significantLines text.toList).map (fun l => parse l.text) = fs.map .ok) :
    let request : Invocation := ⟨.convert input? requested verify, color, some path⟩
    let bases := if requested.isEmpty then Basis.all else requested
    (request.PathsPlain → Invocation.ofWords request.words = .ok request.withBases) ∧
      ∃ log, (request.withBases.run s).log? = some (s.logPath path, log) ∧
        (Text.lines log.text.toList).length = fs.length * bases.length ∧
        ∀ i f j b, fs[i]? = some f → bases[j]? = some b →
          ∃ line r, (Text.lines log.text.toList)[i * bases.length + j]? = some line ∧
            ConversionRecord.ofText? (String.ofList line) = some r ∧ r.event = "@convert" ∧
            r.basis = b.name ∧ Basis.ofName r.basis = .ok b ∧ parse r.input = .ok f ∧
            parse r.output = .ok (b.convert f) := by
  intro request bases
  have hFormulas := Surroundings.formulas_eq_ok hText (Listing.parse_eq_ok_iff.2 hLines)
  refine ⟨ofWords_words, _, run_log hCreate hFormulas, ?_, ?_⟩
  · rw [Log.lines_conversions, length_flatMap_map]
  · intro i f j b hf hb
    -- every formula has been read from some line
    have hRead : ∃ l, parse l = .ok f := by
      have hMem : (.ok f : Except ParseError Formula) ∈ fs.map .ok :=
        List.mem_map_of_mem (List.mem_of_getElem? hf)
      rw [← hLines] at hMem
      obtain ⟨l, -, hParse⟩ := List.mem_map.1 hMem
      exact ⟨l.text, hParse⟩
    obtain ⟨l, hParse⟩ := hRead
    have hLine := getElem?_flatMap_map
      (fun f b => (ConversionRecord.ofConversion b f (b.convert f)).line.toList) fs bases hf hb
    rw [← Log.lines_conversions] at hLine
    have hRecord := ConversionRecord.ofText?_line (.ofConversion b f (b.convert f))
    rw [← String.ofList_toList (s := ConversionRecord.line _)] at hRecord
    exact ⟨_, _, hLine, hRecord, rfl, rfl, b.ofName_name, parse_render_of_parse hParse .ascii,
      parse_render_convert hParse b .ascii⟩

/-- Two formulas with a comment between them, expressed in two bases, make four lines. The last
one is on `~p` and the second basis. -/
theorem Invocation.convert_log_two_by_two :
    let s : Surroundings := ⟨[112, 10, 47, 47, 10, 126, 112], fun _ => .vacant⟩
    let request : Invocation := ⟨.convert none [.nand, .notAnd] true, false, some "out"⟩
    Invocation.ofWords ["--no-color", "--log", "out", "convert", "--basis", "nand", "--basis",
        "not-and", "--verify"] = .ok request ∧
      ∃ log line r, (request.run s).log? = some ("out", log) ∧
        (Text.lines log.text.toList).length = 4 ∧ (Text.lines log.text.toList)[3]? = some line ∧
        ConversionRecord.ofText? (String.ofList line) = some r ∧ r.basis = "not-and" ∧
        parse r.output = .ok (.not (.var "p")) := by
  intro s request
  let s' : Surroundings := ⟨s.standardInput, fun p => if p = "out" then .file [] else .vacant⟩
  have hText : s'.inputText none = .ok "p\n//\n~p" := rfl
  have hSignificant : Listing.significantLines "p\n//\n~p".toList = [⟨1, "p"⟩, ⟨3, "~p"⟩] := by
    decide
  have hVar : parse "p" = .ok (.var "p") :=
    (parse_render_eq_ok_iff .ascii (.var "p")).2 (by decide)
  have hNot : parse "~p" = .ok (.not (.var "p")) :=
    (parse_render_eq_ok_iff .ascii (.not (.var "p"))).2 (by decide)
  have hLines : (Listing.significantLines "p\n//\n~p".toList).map (fun l => parse l.text) =
      [Formula.var "p", .not (.var "p")].map .ok := by
    rw [hSignificant]
    simp [hVar, hNot]
  obtain ⟨hWords, log, hLog, hLength, hPlace⟩ := convert_log s s' "out" _ none [.nand, .notAnd]
    true false _ rfl hText hLines
  obtain ⟨line, r, hLine, hRecord, -, hBasis, -, -, hOutput⟩ := hPlace 1 _ 1 _ rfl rfl
  have hPlain : request.PathsPlain := ⟨nofun, by rintro path ⟨⟩; decide⟩
  exact ⟨hWords hPlain, log, line, r, hLog, hLength, hLine, hRecord, hBasis, hOutput⟩

end Connectives

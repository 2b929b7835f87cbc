import Connectives.Proofs.Command.ConversionLog
import Connectives.Proofs.Command.Outcome
import Connectives.Proofs.Command.Printing
import Connectives.Proofs.Conversion.Equivalence
import Connectives.Proofs.Conversion.Retraction

/-!
# Connectives — checked conversions

When results are checked, each of them is found to agree with its formula, unless there are too many
variables to tell. No result is ever found to be wrong, so a run that converts formulas cannot fail
once its input is in order.

* `Basis.verify_convert` — the verdict on a conversion.
* `Report.failure?_ofConversions` — no report on conversions is a failure.
* `Invocation.run_convert` — a run that converts formulas and has its input in order.
* `Basis.checkedLines` — what is printed for a checked conversion.
* `verification_never_fails` — verdicts, comparison and run together.
-/

namespace Connectives

-- ---------------------------------------------------------------------------
-- Verdicts
-- ---------------------------------------------------------------------------

namespace Basis

variable (b : Basis) (f : Formula)

theorem jointCount_eq : b.jointCount f = (f.names ++ (b.convert f).names).toFinset.card := by
  rw [← length_jointVars_convert, Formula.length_jointVars]

/-- **A conversion is verified**, or else skipped for its number of variables. -/
theorem verify_convert :
    b.verify f (b.convert f) =
      if b.jointCount f ≤ maxReported then .verified else .skipped (b.jointCount f) := by
  have hCount : (f.vars ++ (b.convert f).vars).eraseDups.length = b.jointCount f :=
    length_jointVars_convert b f
  rw [verify, hCount]
  split
  · next hMany => rw [if_neg (Nat.not_le.2 hMany)]
  · next hFew =>
    have hReported : b.jointCount f ≤ maxReported := Nat.not_lt.1 hFew
    have hEnumerated : b.jointCount f ≤ maxEnumerated := hReported.trans (by decide)
    rw [isEquivalent_convert, if_pos hEnumerated, if_pos hReported]
    dsimp only
    rw [if_pos (b.admits_convert f)]

end Basis

/-- No conversion is found to be wrong. -/
theorem Conversion.isFailed_make (verify : Bool) (f : Formula) (b : Basis) :
    (make verify f b).isFailed = false := by
  cases verify with
  | false => rfl
  | true =>
    show (some (b.verify f (b.convert f)) == some Verdict.failed) = false
    rw [b.verify_convert]
    split <;> rfl

theorem countP_isFailed_eq_zero {cs : List Conversion}
    (h : ∀ c ∈ cs, ∃ verify f b, c = .make verify f b) : cs.countP Conversion.isFailed = 0 := by
  rw [List.countP_eq_zero]
  intro c hc
  obtain ⟨verify, f, b, rfl⟩ := h c hc
  rw [Conversion.isFailed_make]
  exact Bool.false_ne_true

/-- **No report on conversions is a failure.** -/
theorem Report.failure?_ofConversions (bases : List Basis) (verify : Bool) (fs : List Formula) :
    (ofConversions bases verify fs).failure? = none := by
  refine if_pos (countP_isFailed_eq_zero fun c hc => ?_)
  obtain ⟨block, hBlock, hc⟩ := List.mem_flatMap.1 hc
  obtain ⟨f, -, rfl⟩ := List.mem_map.1 hBlock
  obtain ⟨b, -, rfl⟩ := List.mem_map.1 hc
  exact ⟨verify, f, b, rfl⟩

-- ---------------------------------------------------------------------------
-- Runs
-- ---------------------------------------------------------------------------

namespace Invocation

variable {i : Invocation} {s s' : Surroundings} {path? input? : Option String} {text : String}
  {bases : List Basis} {verify : Bool} {fs : List Formula}

/-- **A run that converts formulas and has its input in order** prints the conversions and does not
fail. -/
theorem run_convert (hTask : i.task = .convert input? bases verify)
    (hLog : i.openLog s = .ok (s', path?))
    (hInput : s'.inputBytes? input? = some (Text.encodeUtf8 text))
    (hListing : Listing.parse text = .ok fs) :
    (i.run s).output = i.opening ++ i.dress
        (conversionOutput (fs.map fun f => (f, bases.map (Conversion.make verify f)))) ∧
      (i.run s).failure? = none := by
  have hFormulas := Surroundings.formulas_eq_ok_iff.2 ⟨text, hInput, hListing⟩
  have hPerform : i.task.perform s' = .ok (.ofConversions bases verify fs) := by
    rw [hTask, Task.perform, hFormulas]
    rfl
  rw [run_of_perform_ok hLog hPerform]
  exact ⟨rfl, Report.failure?_ofConversions bases verify fs⟩

end Invocation

-- ---------------------------------------------------------------------------
-- What is printed
-- ---------------------------------------------------------------------------

/-- The line of a conversion and the one under it, which says what came of checking it. -/
def Basis.checkedLines (b : Basis) (f : Formula) : List String :=
  ["  " ++ Text.padRight 15 b.name ++ (b.convert f).render .symbols,
    "  " ++ Text.padRight 15 "" ++
      if b.jointCount f ≤ 16 then "verified" else s!"skipped ({b.jointCount f} variables)"]

theorem Conversion.printed_make_true (f : Formula) (b : Basis) :
    (make true f b).printed = b.checkedLines f := by
  have hText : (b.verify f (b.convert f)).text =
      if b.jointCount f ≤ 16 then "verified" else s!"skipped ({b.jointCount f} variables)" := by
    rw [b.verify_convert]
    exact apply_ite Verdict.text _ _ _
  rw [Basis.checkedLines, ← hText]
  rfl

theorem render_checkedBlock (f : Formula) (bases : List Basis) :
    Output.render .plain (conversionBlock f (bases.map (Conversion.make true f))) =
      Text.unlines (f.render .symbols :: bases.flatMap (·.checkedLines f) ++ [""]) := by
  rw [render_conversionBlock, printedBlock, List.flatMap_map]
  simp only [Conversion.printed_make_true]

/-- **Checking never finds a conversion wrong.** Under each result stands `verified`, or `skipped`
if it has more than 16 variables together with its formula; the comparison that this rests on finds
the two equivalent up to 127 variables; and a run with `--verify` succeeds on every input that is in
order, wherever the log goes. -/
theorem verification_never_fails :
    (∀ (f : Formula) (bases : List Basis),
      (bases.map (Conversion.make true f)).countP Conversion.isFailed = 0 ∧
        Output.render .plain (conversionBlock f (bases.map (Conversion.make true f))) =
          Text.unlines (f.render .symbols :: bases.flatMap (·.checkedLines f) ++ [""]) ∧
        ∀ screen,
          Output.render screen (conversionBlock f (bases.map (Conversion.make true f))).withoutStyles =
            Text.unlines (f.render .symbols :: bases.flatMap (·.checkedLines f) ++ [""])) ∧
    (∀ (f : Formula) (b : Basis),
      b.jointCount f = (f.names ++ (b.convert f).names).toFinset.card ∧
        f.isEquivalent (b.convert f) =
          if b.jointCount f ≤ 127 then .ok true else .error (.tooManyVariables (b.jointCount f))) ∧
    ∀ (i : Invocation) (s : Surroundings) (input? : Option String) (bases : List Basis)
      (text : String) (fs : List Formula),
      i.task = .convert input? bases true →
        s.inputBytes? input? = some (Text.encodeUtf8 text) → Listing.parse text = .ok fs →
          (∀ path ∈ i.log?, ∃ s', s.create (s.logPath path) = .ok s') →
            (i.run s).failure? = none := by
  refine ⟨fun f bases => ?_, fun f b => ⟨b.jointCount_eq f, b.isEquivalent_convert f⟩, ?_⟩
  · have hNone : (bases.map (Conversion.make true f)).countP Conversion.isFailed = 0 := by
      refine countP_isFailed_eq_zero fun c hc => ?_
      obtain ⟨b, -, rfl⟩ := List.mem_map.1 hc
      exact ⟨true, f, b, rfl⟩
    exact ⟨hNone, render_checkedBlock f bases, fun screen =>
      (Output.render_withoutStyles screen _).trans (render_checkedBlock f bases)⟩
  · intro i s input? bases text fs hTask hInput hListing hCreates
    obtain ⟨s', path?, hLog⟩ := Invocation.exists_openLog_eq_ok hCreates
    rcases Invocation.inputBytes?_of_openLog hLog with hSame | ⟨hEmptied, -⟩
    · exact (Invocation.run_convert hTask hLog (hSame.trans hInput) hListing).2
    · have hEmpty : s'.inputBytes? input? = some (Text.encodeUtf8 "") := hEmptied
      exact (Invocation.run_convert hTask hLog hEmpty rfl).2

/-- A closed formula gets a variable from its conversion, which is then the only one: `true` in terms
of NAND is verified over `p`. -/
theorem verification_never_fails_top :
    let i : Invocation := ⟨.convert none [.nand] true, false, none⟩
    let s : Surroundings := ⟨[116, 114, 117, 101], fun _ => .vacant⟩
    (i.run s).failure? = none ∧
      Output.render .plain
          (conversionBlock .top ([.nand].map (Conversion.make true .top))).withoutStyles =
        "⊤\n  nand           p ↑ (p ↑ p)\n                 verified\n\n" := by
  intro i s
  have hTop : parse "true" = .ok .top := (parse_render_eq_ok_iff .ascii .top).2 (by decide)
  have hListing : Listing.parse "true" = .ok [.top] := by
    rw [Listing.parse_eq_ok_iff]
    have hLines : Listing.significantLines "true".toList = [⟨1, "true"⟩] := by decide
    rw [hLines]
    simp [hTop]
  obtain ⟨hPrinted, -, hRuns⟩ := verification_never_fails
  refine ⟨hRuns i s none [.nand] "true" [.top] rfl (by decide) hListing nofun, ?_⟩
  rw [(hPrinted .top [.nand]).2.2 .plain]
  decide

end Connectives

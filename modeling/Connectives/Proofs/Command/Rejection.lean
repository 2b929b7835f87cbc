import Connectives.Proofs.Command.Outcome
import Connectives.Proofs.Command.Screen
import Connectives.Proofs.Command.Words
import Connectives.Proofs.Grammar.FirstFault
import Connectives.Proofs.Listing

/-!
# Connectives — faulty input

Nothing is done with an input as long as any of it is out of order. So a single line that is no
formula, wherever it stands, keeps the whole run from printing or logging anything, and so do bytes
that are no text. The log is created before the input is read, which matters in one case: a log
that goes where the input is leaves none of it, and then there is nothing that could be faulty. It
goes there just if it has the path of the input, as no two paths lead to the same place.

* `Listing.Faulty` — bytes that are no listing of formulas.
* `Surroundings.exists_formulas_eq_error` — a faulty input has no formulas.
* `Invocation.rejects_faulty` — what a run leaves of a faulty input.
-/

namespace Connectives

/-- Bytes that are no listing of formulas: they are no text at all, or some significant line of the
text is no formula. -/
def Listing.Faulty (bytes : List UInt8) : Prop :=
  (∀ text, bytes ≠ Text.encodeUtf8 text) ∨
    ∃ text number l, bytes = Text.encodeUtf8 text ∧ LineAt text number l ∧
      ∀ f, Connectives.parse l ≠ .ok f

-- ---------------------------------------------------------------------------
-- Reading a faulty input
-- ---------------------------------------------------------------------------

namespace Surroundings

variable {s : Surroundings} {input? : Option String} {bytes : List UInt8}

theorem exists_formulas_eq_error (hInput : s.inputBytes? input? = some bytes)
    (hFaulty : Listing.Faulty bytes) : ∃ failure, s.formulas input? = .error failure := by
  cases hFormulas : s.formulas input? with
  | error failure => exact ⟨failure, rfl⟩
  | ok fs =>
    obtain ⟨text, hText, hListing⟩ := formulas_eq_ok_iff.1 hFormulas
    have hBytes : bytes = Text.encodeUtf8 text := Option.some.inj (hInput.symm.trans hText)
    rcases hFaulty with hNoText | ⟨text', number, l, hText', hLine, hBad⟩
    · exact absurd hBytes (hNoText text)
    · cases Text.encodeUtf8_injective (hBytes.symm.trans hText')
      obtain ⟨e, hError⟩ := Listing.exists_parse_eq_error hLine hBad
      rw [hListing] at hError
      cases hError

end Surroundings

theorem Task.perform_eq_error {t : Task} {s : Surroundings} {failure : Failure}
    (hTask : t ≠ .bases) (hFormulas : s.formulas t.inputPath? = .error failure) :
    t.perform s = .error failure := by
  cases t with
  | bases => exact absurd rfl hTask
  | table input? =>
    rw [perform, show s.formulas input? = _ from hFormulas]
    rfl
  | convert input? bases verify =>
    rw [perform, show s.formulas input? = _ from hFormulas]
    rfl

-- ---------------------------------------------------------------------------
-- A run
-- ---------------------------------------------------------------------------

namespace Invocation

section Faulty

variable {i : Invocation} {s : Surroundings} {bytes : List UInt8}

/-- Whatever comes of the log, the run fails and prints no more than its opening. If it gets past
the log, it fails with the input, and the log is empty. -/
theorem exists_run_of_faulty (hTask : i.task ≠ .bases)
    (hInput : s.inputBytes? i.task.inputPath? = some bytes) (hFaulty : Listing.Faulty bytes)
    (hApart : ∀ path ∈ i.log?, i.task.inputPath? ≠ some (s.logPath path)) :
    ∃ failure log?, i.run s = ⟨i.opening, some failure, log?⟩ ∧
      ∀ s' path?, i.openLog s = .ok (s', path?) →
        s'.formulas i.task.inputPath? = .error failure ∧ log? = path?.map (·, .empty) := by
  cases hLog : i.openLog s with
  | error failure => exact ⟨failure, none, run_of_openLog_error hLog, nofun⟩
  | ok opened =>
    obtain ⟨s', path?⟩ := opened
    have hSame := inputBytes?_of_apart hApart hLog
    obtain ⟨failure, hFormulas⟩ :=
      Surroundings.exists_formulas_eq_error (hSame.trans hInput) hFaulty
    refine ⟨failure, _, run_of_perform_error hLog (Task.perform_eq_error hTask hFormulas), ?_⟩
    rintro _ _ ⟨⟩
    exact ⟨hFormulas, rfl⟩

end Faulty

/-- **A run on faulty input does nothing but fail.** On every screen the banner is all that is left
without commands to the terminal, and without colour nothing at all is written. The log, if one is
created, stays empty. If the input is a text and the log is no obstacle, the failure is that of the
first line that is no formula. None of this is said of a log that goes where the input is, which it
does just if it has the same path: no two paths lead to the same place. -/
theorem rejects_faulty (i : Invocation) (s : Surroundings) (bytes : List UInt8)
    (hTask : i.task ≠ .bases) (hInput : s.inputBytes? i.task.inputPath? = some bytes)
    (hFaulty : Listing.Faulty bytes)
    (hApart : ∀ path ∈ i.log?, i.task.inputPath? ≠ some (s.logPath path)) :
    (∃ failure, (i.run s).failure? = some failure) ∧
      (∀ screen, (i.run s).output.render screen =
          (if i.color then screen.styleSequence .logo ++ (banner ++ "\n") else "") ∧
        Text.withoutEscapes (i.written screen (i.run s)) = (if i.color then banner ++ "\n" else "") ∧
        (i.color = false → i.written screen (i.run s) = "")) ∧
      (∀ path s', i.log? = some path → s.create (s.logPath path) = .ok s' →
        ∃ log, (i.run s).log? = some (s.logPath path, log) ∧ log.text = "") ∧
      ∀ text, bytes = Text.encodeUtf8 text →
        (∀ path ∈ i.log?, ∃ s', s.create (s.logPath path) = .ok s') →
          ∃ number l fault, Listing.LineAt text number l ∧ parse l = .error fault ∧
            (∀ n < number, ∀ l', Listing.LineAt text n l' → ∃ f, parse l' = .ok f) ∧
            (i.run s).failure?.map Failure.messages =
              some [s!"failed to parse the formula on line {number}", fault.message] := by
  obtain ⟨failure, log?, hRun, hOpened⟩ := exists_run_of_faulty hTask hInput hFaulty hApart
  have hOutput : (i.run s).output = i.opening ++ i.dress [] := by
    rw [hRun, i.dress_nil, List.append_nil]
  rw [hRun] at hOutput ⊢
  refine ⟨⟨failure, rfl⟩, fun screen => ⟨i.render_opening screen, ?_, fun hColor => ?_⟩, ?_, ?_⟩
  · rw [withoutEscapes_written screen Output.escapeFree_nil hOutput, Output.render_nil,
      String.append_empty]
  · rw [written_withoutStyles hColor screen hOutput, Output.render_nil]
  · intro path s' hPath hCreate
    obtain ⟨-, rfl⟩ := hOpened _ _ (openLog_of_create hPath hCreate)
    exact ⟨.empty, rfl, rfl⟩
  · intro text hText hCreates
    obtain ⟨s', path?, hLog⟩ := exists_openLog_eq_ok hCreates
    obtain ⟨hFormulas, -⟩ := hOpened _ _ hLog
    have hSame : s'.inputBytes? i.task.inputPath? = some (Text.encodeUtf8 text) := by
      rw [inputBytes?_of_apart hApart hLog, hInput, hText]
    cases hListing : Listing.parse text with
    | ok fs =>
      rw [Surroundings.formulas_eq_ok_iff.2 ⟨text, hSame, hListing⟩] at hFormulas
      cases hFormulas
    | error e =>
      rw [Surroundings.formulas_eq_error hSame hListing] at hFormulas
      cases hFormulas
      obtain ⟨l, hLine, hFault, hFirst⟩ := Listing.parse_eq_error_iff.1 hListing
      exact ⟨e.line, l, e.fault, hLine, hFault, hFirst, rfl⟩

/-- After a good line and a comment, a bad line is reported by its number. The log that is asked for
is there, and empty. -/
theorem rejects_faulty_third_line :
    let s : Surroundings := ⟨[112, 10, 47, 47, 10, 41], fun _ => .vacant⟩
    let i : Invocation := ⟨.table none, true, some "out"⟩
    (i.run s).failure?.map Failure.messages =
        some ["failed to parse the formula on line 3",
          ParseError.message (.unexpected ⟨1, 1⟩ operandKinds ")")] ∧
      (i.run s).output.render .terminal = banner ++ "\n" ∧
      Text.withoutEscapes (i.written .usual (i.run s)) = banner ++ "\n" ∧
      ∃ log, (i.run s).log? = some ("out", log) ∧ log.text = "" := by
  intro s i
  have hLines : Listing.significantLines "p\n//\n)".toList = [⟨1, "p"⟩, ⟨3, ")"⟩] := by decide
  have hFaulty : Listing.Faulty s.standardInput := by
    refine Or.inr ⟨"p\n//\n)", 3, ")", by decide, ?_, by simp [parse_rparen]⟩
    rw [← Listing.mem_significantLines, hLines]
    decide
  obtain ⟨-, hOutput, hLog, hFirst⟩ := rejects_faulty i s _ nofun rfl hFaulty nofun
  refine ⟨?_, (hOutput .terminal).1, (hOutput .usual).2.1, hLog "out" _ rfl rfl⟩
  obtain ⟨number, l, fault, hAt, hFault, -, hMessages⟩ :=
    hFirst "p\n//\n)" (by decide) fun _ _ => ⟨_, rfl⟩
  rw [hMessages]
  rw [← Listing.mem_significantLines, hLines] at hAt
  rcases List.mem_cons.1 hAt with hFirstLine | hThirdLine
  · cases hFirstLine
    have hVar : parse "p" = .ok (.var "p") :=
      (parse_render_eq_ok_iff .ascii (.var "p")).2 (by decide)
    rw [hVar] at hFault
    cases hFault
  · cases List.mem_singleton.1 hThirdLine
    cases parse_rparen.symm.trans hFault
    rfl

/-- A log that goes where the input is empties it, so the faulty line is never seen: the run
succeeds, and finds no formulas. -/
theorem log_over_faulty_input :
    let s : Surroundings := ⟨[], fun p => if p = "in" then .file [41] else .vacant⟩
    let i : Invocation := ⟨.convert (some "in") Basis.all false, false, some "in"⟩
    Invocation.ofWords ["--no-color", "--log", "in", "convert", "--input", "in"] = .ok i ∧
      s.inputBytes? i.task.inputPath? = some [41] ∧ Listing.Faulty [41] ∧
      (i.run s).failure? = none ∧
      (i.run s).output.render .plain = "Converting 0 formulae:\n\n" := by
  intro s i
  have hPlain : PathsPlain ⟨.convert (some "in") [] false, false, some "in"⟩ :=
    ⟨by rintro path ⟨⟩; decide, by rintro path ⟨⟩; decide⟩
  have hLines : Listing.significantLines ")".toList = [⟨1, ")"⟩] := by decide
  have hFaulty : Listing.Faulty [41] := by
    refine Or.inr ⟨")", 1, ")", by decide, ?_, by simp [parse_rparen]⟩
    rw [← Listing.mem_significantLines, hLines]
    decide
  exact ⟨ofWords_words hPlain, rfl, hFaulty, by decide, by decide⟩

end Invocation

end Connectives

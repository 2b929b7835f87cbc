import Connectives.Proofs.Command.Screen
import Connectives.Proofs.Command.Words

/-!
# Connectives — colour is decoration

Two runs that differ in no more than whether the output is coloured end the same way. What they
write differs by the banner and by commands to the terminal, and without colour there is neither.

* `Invocation.ofWords_noColor` — asking for no colour.
* `Invocation.exists_run_eq` — what a run comes to, for both settings at once.
* `Invocation.color_is_decoration` — what the two runs write.
-/

namespace Connectives

-- ---------------------------------------------------------------------------
-- Asking for no colour
-- ---------------------------------------------------------------------------

theorem occurrences_option (o o' : CommandOption) (ms : List Mention) :
    occurrences o (.option o' :: ms) = occurrences o ms + if o' = o then 1 else 0 := by
  simp [occurrences, List.count_cons]

/-- The command may be asked once for no colour, and nothing else about its options matters to it. -/
theorem checkOptions_noColor (ms : List Mention) :
    checkOptions .command (.option .noColor :: ms) =
      (checkOptions .command ms >>= fun bases =>
        if occurrences .noColor ms = 0 then .ok bases else .error .repeatedOption) := by
  have hValues (o : CommandOption) : valuesOf o (.option .noColor :: ms) = valuesOf o ms := rfl
  have hLacks : lacksValue (.option .noColor :: ms) = lacksValue ms := by
    funext o
    cases o <;> simp [lacksValue, CommandOption.arity, occurrences_option, hValues]
  have hRepeated : CommandLevel.command.options.any (isRepeated (.option .noColor :: ms)) =
      (CommandLevel.command.options.any (isRepeated ms) || decide (occurrences .noColor ms ≠ 0)) := by
    rw [Bool.eq_iff_iff]
    simp only [CommandLevel.options, List.any_cons, List.any_nil, isRepeated, CommandOption.arity,
      occurrences_option, reduceCtorEq, ↓reduceIte, ne_eq, not_false_eq_true, decide_true,
      Bool.true_and, Bool.or_false, Bool.or_eq_true, decide_eq_true_eq]
    omega
  unfold checkOptions
  rw [hLacks, hValues, hRepeated]
  split
  · rfl
  · cases (valuesOf .basis ms).mapM Basis.ofName with
    | error e => rfl
    | ok bases =>
      dsimp only
      cases CommandLevel.command.options.any (isRepeated ms) with
      | true => rfl
      | false =>
        by_cases hFirst : occurrences .noColor ms = 0
        · simp [hFirst, bind, Except.bind]
        · simp [hFirst, bind, Except.bind]

namespace Invocation

/-- The invocation with colour, or without. -/
def withColor (i : Invocation) (color : Bool) : Invocation :=
  { i with color := color }

/-- **Asking for no colour** changes nothing else in a request, and it can be done only once. -/
theorem ofWords_noColor (words : List String) :
    ofWords ("--no-color" :: words) = (ofWords words >>= fun i =>
      if i.color then .ok (i.withColor false) else .error .repeatedOption) := by
  have hScan : scan .command none ("--no-color" :: words) =
      (scan .command none words >>= fun s =>
        .ok { s with mentions := .option .noColor :: s.mentions }) :=
    scan_option none (o := .noColor) (by decide) (by decide) words
  unfold ofWords
  rw [hScan]
  cases scan .command none words with
  | error fault => rfl
  | ok s =>
    obtain ⟨ms, subcommand?⟩ := s
    cases subcommand? with
    | none => rfl
    | some subcommand =>
      obtain ⟨level, rest⟩ := subcommand
      show (Task.ofWords level rest >>= fun task => checkOptions .command (.option .noColor :: ms) >>=
        fun _ => _) = ((Task.ofWords level rest >>= fun task => checkOptions .command ms >>=
          fun _ => _) >>= _)
      cases Task.ofWords level rest with
      | error fault => rfl
      | ok task =>
        rw [checkOptions_noColor]
        cases checkOptions .command ms with
        | error fault => rfl
        | ok bases =>
          have hLog : valuesOf .log (.option .noColor :: ms) = valuesOf .log ms := rfl
          by_cases hFirst : occurrences .noColor ms = 0
          · simp [hFirst, hLog, withColor, occurrences_option, bind, Except.bind, pure, Except.pure]
          · simp [hFirst, bind, Except.bind, pure, Except.pure]

-- ---------------------------------------------------------------------------
-- Two runs
-- ---------------------------------------------------------------------------

/-- Coloured or not, a run ends the same way, with the same text to be dressed. -/
theorem exists_run_eq (i : Invocation) (s : Surroundings) :
    ∃ body failure? log?, Output.EscapeFree body ∧ ∀ color, (i.withColor color).run s =
      ⟨(i.withColor color).opening ++ (i.withColor color).dress body, failure?, log?⟩ := by
  -- neither the log nor the task depends on the colour
  have hLogs (color : Bool) : (i.withColor color).openLog s = i.openLog s := rfl
  cases hLog : i.openLog s with
  | error failure =>
    refine ⟨[], some failure, none, Output.escapeFree_nil, fun color => ?_⟩
    rw [run_of_openLog_error ((hLogs color).trans hLog), dress_nil, List.append_nil]
  | ok opened =>
    obtain ⟨s', path?⟩ := opened
    cases hTask : i.task.perform s' with
    | error failure =>
      refine ⟨[], some failure, path?.map (·, .empty), Output.escapeFree_nil, fun color => ?_⟩
      rw [run_of_perform_error ((hLogs color).trans hLog) hTask, dress_nil, List.append_nil]
    | ok report =>
      exact ⟨report.output, report.failure?, path?.map (·, Log.empty.receiveAll report.events),
        Task.escapeFree_of_perform hTask,
        fun color => run_of_perform_ok ((hLogs color).trans hLog) hTask⟩

/-- **Colour is decoration.** Asking for no colour changes nothing else in a request. For each request
and on every screen, a run without colour fails as the one with colour does, if it does, and has
the same log. It writes no character that a command begins with, and what it writes is what the other
one does without the commands to the terminal and the banner. -/
theorem color_is_decoration :
    (∀ words, ofWords ("--no-color" :: words) = (ofWords words >>= fun i =>
      if i.color then .ok (i.withColor false) else .error .repeatedOption)) ∧
    ∀ (i : Invocation) (s : Surroundings) (screen : Screen),
      let colored := i.withColor true
      let plain := i.withColor false
      (plain.run s).failure? = (colored.run s).failure? ∧
      (plain.run s).log? = (colored.run s).log? ∧
      Text.withoutEscapes (colored.written screen (colored.run s)) =
        banner ++ "\n" ++ plain.written screen (plain.run s) ∧
      '\x1b' ∉ (plain.written screen (plain.run s)).toList ∧
      '\x0e' ∉ (plain.written screen (plain.run s)).toList ∧
      '\x0f' ∉ (plain.written screen (plain.run s)).toList := by
  refine ⟨ofWords_noColor, ?_⟩
  intro i s screen colored plain
  obtain ⟨body, failure?, log?, hFree, hRun⟩ := exists_run_eq i s
  have hText : plain.written screen (plain.run s) = body.render .plain := by
    rw [hRun false]
    exact written_withoutStyles rfl screen rfl
  have hNone : ∀ c ∈ (plain.written screen (plain.run s)).toList, ¬ Text.BeginsCommand c := by
    rw [hText]
    exact hFree.render
  refine ⟨?_, ?_, ?_, fun h => hNone _ h (by decide), fun h => hNone _ h (by decide),
    fun h => hNone _ h (by decide)⟩
  · rw [hRun false, hRun true]
  · rw [hRun false, hRun true]
  · rw [hText, hRun true]
    exact withoutEscapes_written screen hFree rfl

end Invocation

end Connectives

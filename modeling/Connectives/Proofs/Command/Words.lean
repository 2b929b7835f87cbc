import Connectives.Command.Invocation
import Connectives.Proofs.Results

/-!
# Connectives — writing an invocation in words

Every request to the command can be written as words: options first, each by its long name and
with its value in a word of its own, then the subcommand and its options in the same way. Reading
these words gives the request back. A value must be a plain word, for else it would be read as an
option.

* `optionWords`, `optionMentions` — the words of an option and what they are read as.
* `scan_options` — reading the words of some options.
* `checkOptions_eq_ok` — the options are in order if none is given too often.
* `Invocation.ofWords_words` — reading the words of a request.
-/

namespace Connectives

-- ---------------------------------------------------------------------------
-- Options in words
-- ---------------------------------------------------------------------------

/-- An option with its value, if it takes one. -/
abbrev Setting := CommandOption × Option String

/-- The words of an option and its value. -/
def optionWords (g : Setting) : List String :=
  ("--" ++ g.1.long) :: g.2.toList

/-- What these words are read as. -/
def optionMentions (g : Setting) : List Mention :=
  .option g.1 :: (g.2.map (Mention.value g.1)).toList

/-- A word that is no option. -/
def IsPlain (text : String) : Prop :=
  Word.ofChars text.toList = .plain text

instance : DecidablePred IsPlain :=
  fun text => inferInstanceAs (Decidable (Word.ofChars text.toList = .plain text))

/-- The option can be set so at the level, and does not ask for help or the version. -/
structure Setting.Proper (level : CommandLevel) (g : Setting) : Prop where
  mem : g.1 ∈ level.options
  acts : g.1 ≠ .help ∧ g.1 ≠ .version
  valued : g.2.isSome = true ↔ g.1.arity ≠ .none
  plain : ∀ v ∈ g.2, IsPlain v

theorem Setting.Proper.value {level : CommandLevel} {o : CommandOption} {v : String}
    (hMem : o ∈ level.options) (hArity : o.arity ≠ .none) (hPlain : IsPlain v) :
    Setting.Proper level (o, some v) where
  mem := hMem
  acts := by
    constructor
    · rintro rfl
      exact hArity rfl
    · rintro rfl
      exact hArity rfl
  valued := iff_of_true rfl hArity
  plain := by
    rintro w ⟨⟩
    exact hPlain

/-- The option that goes on to take values after its first one. -/
def CommandOption.wantsMore (o : CommandOption) : Option CommandOption :=
  if o.arity = .many then some o else none

theorem ofChars_long (o : CommandOption) :
    Word.ofChars ("--" ++ o.long).toList = .long o.long none := by
  cases o <;> decide

theorem ofWord?_long {level : CommandLevel} {o : CommandOption} (h : o ∈ level.options) :
    GivenOption.ofWord? level.options (.long o.long none) = some (.bare o) := by
  have hAll : ∀ o ∈ level.options,
      GivenOption.ofWord? level.options (.long o.long none) = some (.bare o) := by
    cases level <;> decide
  exact hAll o h

-- ---------------------------------------------------------------------------
-- Reading options
-- ---------------------------------------------------------------------------

section Scan

variable {level : CommandLevel} {o : CommandOption} {words : List String} {s : Scan}

/-- The name of an option is read wherever it stands, and then the words after it are. -/
theorem scan_option (wanted : Option CommandOption) (hMem : o ∈ level.options)
    (hActs : o ≠ .help ∧ o ≠ .version) (words : List String) :
    scan level wanted (("--" ++ o.long) :: words) = do
      let s ← scan level (GivenOption.bare o).wants words
      return { s with mentions := .option o :: s.mentions } := by
  have hOption : (GivenOption.bare o).option = o := rfl
  rw [scan.eq_def]
  dsimp only
  rw [ofChars_long]
  dsimp only
  rw [ofWord?_long hMem]
  dsimp only
  rw [hOption]
  cases o with
  | help => exact absurd rfl hActs.1
  | version => exact absurd rfl hActs.2
  | noColor | log | input | basis | verify => rfl

/-- A value is read behind the option that takes it. -/
theorem scan_value {text : String} (hPlain : IsPlain text)
    (hLater : scan level o.wantsMore words = .ok s) :
    scan level (some o) (text :: words) =
      .ok { s with mentions := .value o text :: s.mentions } := by
  rw [scan.eq_def]
  dsimp only
  rw [hPlain]
  dsimp only
  rw [CommandOption.wantsMore] at hLater
  rw [hLater]
  rfl

theorem scan_setting (wanted : Option CommandOption) {g : Setting} (hProper : g.Proper level)
    (hLater : scan level g.1.wantsMore words = .ok s) :
    scan level wanted (optionWords g ++ words) =
      .ok { s with mentions := optionMentions g ++ s.mentions } := by
  obtain ⟨o, value?⟩ := g
  have hValue := hProper.valued
  cases value? with
  | none =>
    have hArity : o.arity = .none := by simpa using hValue
    have hWants : (GivenOption.bare o).wants = o.wantsMore := by
      simp [GivenOption.bare, CommandOption.wantsMore, hArity]
    rw [optionWords, List.cons_append, scan_option wanted hProper.mem hProper.acts, hWants]
    dsimp only [Option.toList, List.nil_append]
    rw [hLater]
    rfl
  | some v =>
    have hArity : o.arity ≠ .none := by simpa using hValue
    have hWants : (GivenOption.bare o).wants = some o := by
      simp [GivenOption.bare, hArity]
    have hRead := scan_value (hProper.plain v rfl) hLater
    rw [optionWords, List.cons_append, scan_option wanted hProper.mem hProper.acts, hWants]
    dsimp only [Option.toList, List.cons_append, List.nil_append]
    rw [hRead]
    rfl

/-- Options are read one after another, and what comes after them must be read whether or not the
last one goes on to take values. -/
theorem scan_options {gs : List Setting} (hProper : ∀ g ∈ gs, g.Proper level)
    (hRest : ∀ wanted, (∀ o ∈ wanted, o ∈ level.options ∧ o.arity = .many) →
      scan level wanted words = .ok s)
    (wanted : Option CommandOption)
    (hWanted : ∀ o ∈ wanted, o ∈ level.options ∧ o.arity = .many) :
    scan level wanted (gs.flatMap optionWords ++ words) =
      .ok { s with mentions := gs.flatMap optionMentions ++ s.mentions } := by
  induction gs generalizing wanted with
  | nil => exact hRest wanted hWanted
  | cons g gs ih =>
    obtain ⟨hHead, hTail⟩ := List.forall_mem_cons.1 hProper
    have hMore : ∀ o ∈ g.1.wantsMore, o ∈ level.options ∧ o.arity = .many := by
      intro o hMem
      rw [CommandOption.wantsMore] at hMem
      split at hMem
      · next hMany =>
        cases hMem
        exact ⟨hHead.mem, hMany⟩
      · cases hMem
    have hRead := scan_setting wanted hHead (ih hTail g.1.wantsMore hMore)
    simpa [List.append_assoc] using hRead

end Scan

-- ---------------------------------------------------------------------------
-- Checking options
-- ---------------------------------------------------------------------------

section Check

variable {level : CommandLevel} {gs : List Setting}

/-- An option is given as often as it is set. -/
theorem occurrences_mentions (o : CommandOption) (gs : List Setting) :
    occurrences o (gs.flatMap optionMentions) = gs.countP (·.1 = o) := by
  induction gs with
  | nil => rfl
  | cons g gs ih =>
    have hValue : (g.2.map (Mention.value g.1)).toList.count (.option o) = 0 := by
      cases g.2 with
      | none => rfl
      | some v => rfl
    rw [occurrences] at ih ⊢
    rw [List.flatMap_cons, List.count_append, ih, List.countP_cons, optionMentions,
      List.count_cons, hValue]
    simp [Nat.add_comm]

/-- Its values are those that it is set to. -/
theorem valuesOf_mentions (o : CommandOption) (gs : List Setting) :
    valuesOf o (gs.flatMap optionMentions) =
      gs.filterMap fun g => if g.1 = o then g.2 else none := by
  induction gs with
  | nil => rfl
  | cons g gs ih =>
    obtain ⟨o', value?⟩ := g
    rw [valuesOf] at ih ⊢
    rw [List.flatMap_cons, List.filterMap_append, ih, List.filterMap_cons]
    cases value? with
    | none => simp [optionMentions]
    | some v =>
      by_cases hSame : o' = o
      · simp [optionMentions, hSame]
      · simp [optionMentions, hSame]

theorem not_lacksValue (hProper : ∀ g ∈ gs, g.Proper level) (o : CommandOption) :
    lacksValue (gs.flatMap optionMentions) o = false := by
  rw [Bool.eq_false_iff]
  intro hLacks
  simp only [lacksValue, Bool.and_eq_true, decide_eq_true_eq, List.isEmpty_iff,
    occurrences_mentions, valuesOf_mentions, List.countP_pos_iff, List.filterMap_eq_nil_iff]
    at hLacks
  obtain ⟨⟨hArity, g, hMem, hSame⟩, hNone⟩ := hLacks
  have hSome : g.2.isSome = true := (hProper g hMem).valued.2 (hSame ▸ hArity)
  have hValue := hNone g hMem
  rw [if_pos hSame] at hValue
  rw [hValue] at hSome
  cases hSome

/-- The options of a level are in order if each that may be set only once is set no more often. -/
theorem checkOptions_eq_ok {bases : List Basis} (hProper : ∀ g ∈ gs, g.Proper level)
    (hOnce : ∀ o ∈ level.options, o.arity ≠ .many → gs.countP (·.1 = o) ≤ 1)
    (hBases : (valuesOf .basis (gs.flatMap optionMentions)).map Basis.ofName = bases.map .ok) :
    checkOptions level (gs.flatMap optionMentions) = .ok bases := by
  have hValues : level.options.any (lacksValue (gs.flatMap optionMentions)) = false := by
    rw [List.any_eq_false]
    intro o _ hLacks
    rw [not_lacksValue hProper] at hLacks
    cases hLacks
  have hRepeated : level.options.any (isRepeated (gs.flatMap optionMentions)) = false := by
    rw [List.any_eq_false]
    intro o hMem hMany
    simp only [isRepeated, occurrences_mentions, Bool.and_eq_true, decide_eq_true_eq] at hMany
    have hMost := hOnce o hMem hMany.1
    omega
  rw [checkOptions, hValues, if_neg Bool.false_ne_true, mapM_eq_ok_iff.2 hBases]
  dsimp only
  rw [hRepeated, if_neg Bool.false_ne_true]

end Check

/-- A basis is found by its own name. -/
theorem Basis.ofName_name (b : Basis) : Basis.ofName b.name = .ok b := by
  have hWanted : (Text.trim b.name).map Char.toLower = b.name := by
    cases b <;> decide +kernel
  rw [Basis.ofName, hWanted]
  cases b <;> rfl

-- ---------------------------------------------------------------------------
-- Requests
-- ---------------------------------------------------------------------------

/-- The subcommand of a task. -/
def Task.level : Task → CommandLevel
  | convert _ _ _ => .convert
  | table _ => .table
  | bases => .bases

/-- The options that a task is asked for with. -/
def Task.settings : Task → List Setting
  | convert input? targets verify =>
    input?.toList.map (fun path => (.input, some path)) ++
      (targets.map (fun b => (.basis, some b.name)) ++ (if verify then [(.verify, none)] else []))
  | table input? => input?.toList.map fun path => (.input, some path)
  | bases => []

/-- The task with every basis in place of none. -/
def Task.withBases : Task → Task
  | convert input? targets verify =>
    convert input? (if targets.isEmpty then Basis.all else targets) verify
  | table input? => table input?
  | bases => bases

/-- The name of the subcommand of a task. -/
def Task.name : Task → String
  | convert _ _ _ => "convert"
  | table _ => "table"
  | bases => "bases"

namespace Invocation

/-- The options that the command is asked for with. -/
def settings (i : Invocation) : List Setting :=
  (if i.color then [] else [(.noColor, none)]) ++ i.log?.toList.map fun path => (.log, some path)

/-- The words of a request. -/
def words (i : Invocation) : List String :=
  i.settings.flatMap optionWords ++ (i.task.name :: i.task.settings.flatMap optionWords)

/-- The paths in a request are plain words. -/
structure PathsPlain (i : Invocation) : Prop where
  input : ∀ path ∈ i.task.inputPath?, IsPlain path
  log : ∀ path ∈ i.log?, IsPlain path

end Invocation

-- ---------------------------------------------------------------------------
-- Reading a request
-- ---------------------------------------------------------------------------

namespace Task

variable {t : Task}

theorem proper_settings (hPlain : ∀ path ∈ t.inputPath?, IsPlain path) :
    ∀ g ∈ t.settings, g.Proper t.level := by
  intro g hg
  cases t with
  | convert input? targets verify =>
    rw [settings, List.mem_append, List.mem_append] at hg
    rcases hg with hg | hg | hg
    · obtain ⟨path, hPath, rfl⟩ := List.mem_map.1 hg
      exact .value (.tail _ (.tail _ (.head _))) nofun (hPlain path (Option.mem_toList.1 hPath))
    · obtain ⟨b, -, rfl⟩ := List.mem_map.1 hg
      have hName : IsPlain b.name := by cases b <;> decide
      exact .value (.tail _ (.tail _ (.tail _ (.head _)))) nofun hName
    · cases verify with
      | false => cases hg
      | true =>
        rw [List.mem_singleton.1 hg]
        exact ⟨.tail _ (.tail _ (.tail _ (.tail _ (.head _)))), by decide, by decide, nofun⟩
  | table input? =>
    obtain ⟨path, hPath, rfl⟩ := List.mem_map.1 hg
    exact .value (.tail _ (.tail _ (.head _))) nofun (hPlain path (Option.mem_toList.1 hPath))
  | bases => cases hg

/-- Only bases are set more than once. -/
theorem countP_settings_le (t : Task) {o : CommandOption} (h : o.arity ≠ .many) :
    t.settings.countP (·.1 = o) ≤ 1 := by
  cases t with
  | convert input? targets verify =>
    have hTargets :
        (targets.map fun b => ((.basis, some b.name) : Setting)).countP (·.1 = o) = 0 := by
      rw [List.countP_map, List.countP_eq_zero]
      intro b _ hSame
      rw [← of_decide_eq_true hSame] at h
      exact h rfl
    rw [settings, List.countP_append, List.countP_append, hTargets]
    cases input? <;> cases verify <;> cases o <;> simp
  | table input? => cases input? <;> cases o <;> simp [settings]
  | bases => exact Nat.zero_le 1

/-- The bases that a task is asked for with. -/
def targets : Task → List Basis
  | convert _ targets _ => targets
  | table _ | bases => []

theorem map_ofName_settings (t : Task) :
    (valuesOf .basis (t.settings.flatMap optionMentions)).map Basis.ofName = t.targets.map .ok := by
  rw [valuesOf_mentions]
  cases t with
  | convert input? targets verify =>
    have hTargets : ((targets.map fun b => ((.basis, some b.name) : Setting)).filterMap
        fun g => if g.1 = .basis then g.2 else none) = targets.map Basis.name := by
      rw [List.filterMap_map]
      exact congrFun (List.filterMap_eq_map (f := Basis.name)) targets
    rw [settings, List.filterMap_append, List.filterMap_append, hTargets]
    cases input? <;> cases verify <;> simp [Basis.ofName_name, Task.targets, Function.comp_def]
  | table input? => cases input? <;> rfl
  | bases => rfl

/-- Reading the words of a task gives it back, with all bases in place of none. -/
theorem ofWords_settings (hPlain : ∀ path ∈ t.inputPath?, IsPlain path) :
    ofWords t.level (t.settings.flatMap optionWords) = .ok t.withBases := by
  have hProper := proper_settings hPlain
  have hScan : scan t.level none (t.settings.flatMap optionWords) =
      .ok ⟨t.settings.flatMap optionMentions, none⟩ := by
    have hEnd : ∀ wanted, (∀ o ∈ wanted, o ∈ t.level.options ∧ o.arity = .many) →
        scan t.level wanted [] = .ok ⟨[], none⟩ := by
      intro wanted _
      cases wanted <;> rfl
    simpa using scan_options hProper hEnd none nofun
  have hCheck := checkOptions_eq_ok hProper (fun o _ h => t.countP_settings_le h)
    t.map_ofName_settings
  rw [ofWords, hScan]
  show (do let bases ← checkOptions t.level _; return ofMentions bases _ t.level) = _
  rw [hCheck]
  refine congrArg Except.ok ?_
  cases t with
  | convert input? targets verify =>
    have hInput : valuesOf .input
        ((convert input? targets verify).settings.flatMap optionMentions) = input?.toList := by
      rw [valuesOf_mentions, settings, List.filterMap_append, List.filterMap_append,
        List.filterMap_map]
      cases input? <;> cases verify <;> simp
    have hVerify : decide (0 < occurrences .verify
        ((convert input? targets verify).settings.flatMap optionMentions)) = verify := by
      rw [occurrences_mentions, settings, List.countP_append, List.countP_append, List.countP_map]
      cases input? <;> cases verify <;> simp
    have hHead : input?.toList.head? = input? := by cases input? <;> rfl
    show convert _ _ (decide _) = convert _ _ _
    rw [hInput, hVerify, hHead]
    rfl
  | table input? => cases input? <;> rfl
  | bases => rfl

theorem mem_subcommands (t : Task) : (t.name, t.level) ∈ CommandLevel.command.subcommands := by
  cases t with
  | convert _ _ _ => exact .head _
  | table _ => exact .tail _ (.head _)
  | bases => exact .tail _ (.tail _ (.head _))

end Task

namespace Invocation

variable {i : Invocation}

theorem proper_settings (hPlain : i.PathsPlain) : ∀ g ∈ i.settings, g.Proper .command := by
  intro g hg
  rw [settings, List.mem_append] at hg
  rcases hg with hg | hg
  · split at hg
    · cases hg
    · rw [List.mem_singleton.1 hg]
      exact ⟨by decide, by decide, by decide, nofun⟩
  · obtain ⟨path, hPath, rfl⟩ := List.mem_map.1 hg
    exact .value (by decide) (by decide) (hPlain.log path (Option.mem_toList.1 hPath))

/-- A request with every basis in place of none. -/
def withBases (i : Invocation) : Invocation :=
  { i with task := i.task.withBases }

private theorem lookup_subcommand : ∀ e ∈ CommandLevel.command.subcommands,
    IsPlain e.1 ∧ CommandLevel.command.subcommands.lookup e.1 = some e.2 := by
  decide

/-- No option of the command takes more than one value, so the subcommand is not taken for one. -/
theorem scan_subcommand (t : Task) (words : List String) :
    ∀ wanted, (∀ o ∈ wanted, o ∈ CommandLevel.command.options ∧ o.arity = .many) →
      scan .command wanted (t.name :: words) = .ok ⟨[], some (t.level, words)⟩ := by
  intro wanted hWanted
  cases wanted with
  | some o =>
    have hMany := hWanted o rfl
    exact absurd hMany (by cases o <;> decide)
  | none =>
    obtain ⟨hPlain, hLevel⟩ := lookup_subcommand _ t.mem_subcommands
    rw [scan.eq_def]
    dsimp only
    rw [hPlain]
    dsimp only
    rw [hLevel]

/-- **Reading the words of a request gives it back**, with all bases in place of none. -/
theorem ofWords_words (hPlain : i.PathsPlain) : ofWords i.words = .ok i.withBases := by
  have hProper := proper_settings hPlain
  have hScan := scan_options hProper (scan_subcommand i.task (i.task.settings.flatMap optionWords))
    none nofun
  have hTask := Task.ofWords_settings hPlain.input
  obtain ⟨task, color, log?⟩ := i
  have hOnce : ∀ o ∈ CommandLevel.command.options, o.arity ≠ .many →
      (settings ⟨task, color, log?⟩).countP (·.1 = o) ≤ 1 := by
    intro o _ _
    cases color <;> cases log? <;> cases o <;> simp [settings]
  have hBases : (valuesOf .basis ((settings ⟨task, color, log?⟩).flatMap optionMentions)).map
      Basis.ofName = ([] : List Basis).map .ok := by
    cases color <;> cases log? <;> rfl
  have hCheck := checkOptions_eq_ok hProper hOnce hBases
  rw [ofWords, words, hScan]
  show (do
    let task ← Task.ofWords task.level (task.settings.flatMap optionWords)
    let _ ← checkOptions .command _
    return Invocation.mk task _ _) = _
  rw [hTask]
  show (do
    let _ ← checkOptions .command _
    return Invocation.mk _ _ _) = _
  rw [List.append_nil, hCheck]
  cases color <;> cases log? <;> rfl

end Invocation

end Connectives

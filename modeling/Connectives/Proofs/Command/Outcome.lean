import Connectives.Command.Run
import Connectives.Proofs.Results
import Connectives.Proofs.Text.Utf8

/-!
# Connectives — how a run ends

A run has three ends: there is no file for the log, the input is not in order, or the task is done.
What is read is settled by the bytes of the input. Creating the log leaves them alone, unless the
log goes where the input is.

* `Surroundings.inputBytes?` — the bytes of the input.
* `Surroundings.inputText_eq_ok_iff`, `formulas_eq_ok_iff` — its text and its formulas, by its bytes.
* `Surroundings.inputBytes?_of_create`, `Invocation.inputBytes?_of_openLog` — what is left of them when
  a file has been created.
* `Invocation.openLog_cases` — what comes of creating the log.
* `Invocation.run_of_perform_ok`, `run_of_perform_error`, `run_of_openLog_error` — the three ends.
-/

namespace Connectives

namespace Surroundings

variable {s s' : Surroundings} {input? : Option String} {path : String}

/-- The bytes of the input, where there are any: of a file, if one is named, and of the standard
input otherwise. -/
def inputBytes? (s : Surroundings) : Option String → Option (List UInt8)
  | none => some s.standardInput
  | some path =>
    match s.place path with
    | .file bytes => some bytes
    | .directory | .vacant | .unreachable => none

/-- **The text of the input is the one that its bytes encode.** -/
theorem inputText_eq_ok_iff {text : String} :
    s.inputText input? = .ok text ↔ s.inputBytes? input? = some (Text.encodeUtf8 text) := by
  cases input? with
  | none =>
    rw [inputText, inputBytes?, mapError_eq_ok_iff, Text.decodeUtf8_eq_ok_iff, Option.some.injEq]
  | some path =>
    rw [inputText, inputBytes?]
    cases s.place path with
    | file bytes =>
      dsimp only
      rw [mapError_eq_ok_iff, Text.decodeUtf8_eq_ok_iff, Option.some.injEq]
    | directory | vacant | unreachable => simp

/-- **There are formulas if the bytes of the input are a listing.** -/
theorem formulas_eq_ok_iff {fs : List Formula} :
    s.formulas input? = .ok fs ↔
      ∃ text, s.inputBytes? input? = some (Text.encodeUtf8 text) ∧ Listing.parse text = .ok fs := by
  constructor
  · intro h
    rw [formulas] at h
    cases hText : s.inputText input? with
    | error failure =>
      rw [hText] at h
      cases h
    | ok text =>
      rw [hText] at h
      exact ⟨text, inputText_eq_ok_iff.1 hText, mapError_eq_ok_iff.1 h⟩
  · rintro ⟨text, hInput, hListing⟩
    rw [formulas, inputText_eq_ok_iff.2 hInput]
    exact mapError_eq_ok_iff.2 hListing

/-- If the input is a text, the failure is that of reading the listing. -/
theorem formulas_eq_error {text : String} {e : Listing.Error}
    (hInput : s.inputBytes? input? = some (Text.encodeUtf8 text))
    (hListing : Listing.parse text = .error e) : s.formulas input? = .error (.notAListing e) := by
  rw [formulas, inputText_eq_ok_iff.2 hInput]
  exact mapError_eq_error_iff.2 ⟨e, hListing, rfl⟩

/-- **Creating a file empties the input that is there**, and leaves every other one as it is. -/
theorem inputBytes?_of_create (hCreate : s.create path = .ok s') :
    s'.inputBytes? input? = if input? = some path then some [] else s.inputBytes? input? := by
  have hPlaces : s' = { s with place := fun p => if p = path then .file [] else s.place p } := by
    rw [create] at hCreate
    cases hPlace : s.place path with
    | directory => rw [hPlace] at hCreate; cases hCreate
    | unreachable => rw [hPlace] at hCreate; cases hCreate
    | file bytes => rw [hPlace] at hCreate; cases hCreate; rfl
    | vacant => rw [hPlace] at hCreate; cases hCreate; rfl
  subst hPlaces
  cases input? with
  | none => rfl
  | some p =>
    rw [inputBytes?, inputBytes?]
    dsimp only
    by_cases hSame : p = path
    · rw [if_pos hSame, if_pos (congrArg some hSame)]
    · rw [if_neg hSame, if_neg fun h => hSame (Option.some.inj h)]

end Surroundings

namespace Invocation

variable {i : Invocation} {s s' : Surroundings} {path? : Option String} {failure : Failure}

/-- **What comes of creating the log**: nothing if there is to be none, and else a new file or the
reason why there is none. -/
theorem openLog_cases (i : Invocation) (s : Surroundings) :
    (i.log? = none ∧ i.openLog s = .ok (s, none)) ∨
      (∃ path s', i.log? = some path ∧ s.create (s.logPath path) = .ok s' ∧
        i.openLog s = .ok (s', some (s.logPath path))) ∨
      ∃ path reason, i.log? = some path ∧ s.create (s.logPath path) = .error reason ∧
        i.openLog s = .error (.logNotCreated reason) := by
  rw [openLog]
  cases i.log? with
  | none => exact Or.inl ⟨rfl, rfl⟩
  | some path =>
    dsimp only
    cases hCreate : s.create (s.logPath path) with
    | ok s' => exact Or.inr (Or.inl ⟨path, s', rfl, hCreate, rfl⟩)
    | error reason => exact Or.inr (Or.inr ⟨path, reason, rfl, hCreate, rfl⟩)

theorem openLog_of_create {path : String} (hPath : i.log? = some path)
    (hCreate : s.create (s.logPath path) = .ok s') :
    i.openLog s = .ok (s', some (s.logPath path)) := by
  rw [openLog, hPath]
  dsimp only
  rw [hCreate]

theorem exists_openLog_eq_ok (h : ∀ path ∈ i.log?, ∃ s', s.create (s.logPath path) = .ok s') :
    ∃ s' path?, i.openLog s = .ok (s', path?) := by
  cases hPath : i.log? with
  | none => exact ⟨s, none, by rw [openLog, hPath]⟩
  | some path =>
    obtain ⟨s', hCreate⟩ := h path hPath
    exact ⟨s', _, openLog_of_create hPath hCreate⟩

/-- Creating the log leaves the input as it is, or empties it if the log goes where the input is. -/
theorem inputBytes?_of_openLog {input? : Option String} (hLog : i.openLog s = .ok (s', path?)) :
    s'.inputBytes? input? = s.inputBytes? input? ∨
      s'.inputBytes? input? = some [] ∧ ∃ path ∈ i.log?, input? = some (s.logPath path) := by
  rcases openLog_cases i s with ⟨-, hOpen⟩ | ⟨path, t, hPath, hCreate, hOpen⟩ | ⟨-, reason, -, -, hOpen⟩
  · rw [hOpen] at hLog
    cases hLog
    exact Or.inl rfl
  · rw [hOpen] at hLog
    cases hLog
    rw [Surroundings.inputBytes?_of_create hCreate]
    split
    · next hSame => exact Or.inr ⟨rfl, path, hPath, hSame⟩
    · exact Or.inl rfl
  · rw [hOpen] at hLog
    cases hLog

theorem inputBytes?_of_apart {input? : Option String}
    (hApart : ∀ path ∈ i.log?, input? ≠ some (s.logPath path))
    (hLog : i.openLog s = .ok (s', path?)) : s'.inputBytes? input? = s.inputBytes? input? :=
  (inputBytes?_of_openLog hLog).resolve_right fun ⟨_, path, hPath, hSame⟩ =>
    hApart path hPath hSame

theorem run_of_openLog_error (hLog : i.openLog s = .error failure) :
    i.run s = ⟨i.opening, some failure, none⟩ := by
  rw [run, hLog]

theorem run_of_perform_error (hLog : i.openLog s = .ok (s', path?))
    (hTask : i.task.perform s' = .error failure) :
    i.run s = ⟨i.opening, some failure, path?.map (·, .empty)⟩ := by
  rw [run, hLog]
  dsimp only
  rw [hTask]

theorem run_of_perform_ok {report : Report} (hLog : i.openLog s = .ok (s', path?))
    (hTask : i.task.perform s' = .ok report) :
    i.run s = ⟨i.opening ++ i.dress report.output, report.failure?,
      path?.map (·, Log.empty.receiveAll report.events)⟩ := by
  rw [run, hLog]
  dsimp only
  rw [hTask]

end Invocation

end Connectives

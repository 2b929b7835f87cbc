import Connectives.Proofs.Log.Contents
import Mathlib.Data.List.Forall2

/-!
# Connectives — which events are logged

An event is logged if the listener has kept all four texts of a record and the first of them says
that a formula was converted. What the listener keeps is told here by the fields of the event
alone: under each name the last value that may stand there. Whatever the fields hold, the line of
a logged event stays one line and says exactly these texts.

* `Event.Recorded` — the text that is kept under a name.
* `Event.Announces`, `Announced` — the record of one event, and the records of many.
* `Event.record?_eq_some_iff`, `announced_iff` — they are the records that the log has lines for.
* `Log.lines_announced` — what is in a log after any events.
-/

namespace Connectives

-- ---------------------------------------------------------------------------
-- What is kept of an event
-- ---------------------------------------------------------------------------

/-- A value that may be kept under a name, with the text that is kept of it. -/
inductive FieldValue.KeptAs (name : String) : FieldValue → String → Prop
  /-- A plain text, as the kind of event or the basis. -/
  | text {s : String} (h : name = "event" ∨ name = "basis") : KeptAs name (.text s) s
  /-- A formatted value, as any text of a record. -/
  | formatted {s : String} (h : name = "event" ∨ name = "basis" ∨ name = "input" ∨ name = "output") :
    KeptAs name (.formatted s) s

theorem FieldValue.kept?_eq_some_iff {name t : String} {v : FieldValue} :
    v.kept? name = some t ↔ v.KeptAs name t := by
  cases v with
  | text s =>
    simp only [kept?, eventField, basisField, List.mem_cons, List.not_mem_nil, or_false,
      Option.ite_none_right_eq_some, Option.some.injEq]
    constructor
    · rintro ⟨hName, rfl⟩
      exact .text hName
    · rintro ⟨hName⟩
      exact ⟨hName, rfl⟩
  | formatted s =>
    simp only [kept?, eventField, basisField, inputField, outputField, List.mem_cons,
      List.not_mem_nil, or_false, Option.ite_none_right_eq_some, Option.some.injEq]
    constructor
    · rintro ⟨hName, rfl⟩
      exact .formatted hName
    · rintro (_ | hName)
      exact ⟨hName, rfl⟩

namespace Event

variable {e : Event} {name t : String} {r : ConversionRecord}

/-- The text that is kept under a name, of the last field that has one. -/
def Recorded (e : Event) (name t : String) : Prop :=
  ∃ before v after, e.fields = before ++ (name, v) :: after ∧ v.KeptAs name t ∧
    ∀ w, (name, w) ∈ after → ∀ u, ¬ w.KeptAs name u

theorem recorded?_eq_some_iff : e.recorded? name = some t ↔ e.Recorded name t := by
  rw [recorded?, List.findSome?_eq_some_iff]
  constructor
  · rintro ⟨after, ⟨n, v⟩, before, hFields, hKept, hNone⟩
    dsimp only at hKept
    split at hKept
    · next hName =>
      subst hName
      refine ⟨before.reverse, v, after.reverse, ?_, FieldValue.kept?_eq_some_iff.1 hKept, ?_⟩
      · rw [← List.reverse_reverse e.fields, hFields]
        simp
      · intro w hw u hKeptAs
        have hLater := hNone _ (List.mem_reverse.1 hw)
        dsimp only at hLater
        rw [if_pos rfl, FieldValue.kept?_eq_some_iff.2 hKeptAs] at hLater
        cases hLater
    · cases hKept
  · rintro ⟨before, v, after, hFields, hKept, hLast⟩
    refine ⟨after.reverse, (name, v), before.reverse, ?_, ?_, ?_⟩
    · rw [hFields]
      simp
    · dsimp only
      rw [if_pos rfl]
      exact FieldValue.kept?_eq_some_iff.2 hKept
    · rintro ⟨n, w⟩ hw
      dsimp only
      split
      · next hName =>
        subst hName
        rw [Option.eq_none_iff_forall_ne_some]
        intro u hu
        exact hLast w (List.mem_reverse.1 hw) u (FieldValue.kept?_eq_some_iff.1 hu)
      · rfl

/-- The event says that a formula was converted, and all texts of the record are kept of it. -/
structure Announces (e : Event) (r : ConversionRecord) : Prop where
  isConversion : r.event = "@convert"
  event : e.Recorded "event" r.event
  basis : e.Recorded "basis" r.basis
  input : e.Recorded "input" r.input
  output : e.Recorded "output" r.output

/-- **An event is logged with the record that it announces**, if it does. -/
theorem record?_eq_some_iff : e.record? = some r ↔ e.Announces r := by
  simp only [record?, Option.bind_eq_bind, Option.bind_eq_some_iff, recorded?_eq_some_iff,
    Option.ite_none_right_eq_some, Option.some.injEq]
  constructor
  · rintro ⟨event, hEvent, basis, hBasis, input, hInput, output, hOutput, hKind, rfl⟩
    exact ⟨hKind, hEvent, hBasis, hInput, hOutput⟩
  · rintro ⟨hKind, hEvent, hBasis, hInput, hOutput⟩
    exact ⟨_, hEvent, _, hBasis, _, hInput, _, hOutput, hKind, rfl⟩

/-- The input has to be formatted to be kept, which the basis need not be. -/
example : record? ⟨[("event", .text "@convert"), ("basis", .text "nand"), ("input", .text "p"),
    ("output", .formatted "p")]⟩ = none := by
  decide

end Event

-- ---------------------------------------------------------------------------
-- Many events
-- ---------------------------------------------------------------------------

/-- The records that events announce, in their order. Events that announce none do not count. -/
inductive Announced : List Event → List ConversionRecord → Prop
  | nil : Announced [] []
  | record {e : Event} {es : List Event} {r : ConversionRecord} {rs : List ConversionRecord}
    (h : e.Announces r) (hRest : Announced es rs) : Announced (e :: es) (r :: rs)
  | other {e : Event} {es : List Event} {rs : List ConversionRecord}
    (h : ∀ r, ¬ e.Announces r) (hRest : Announced es rs) : Announced (e :: es) rs

theorem announced_iff {es : List Event} {rs : List ConversionRecord} :
    Announced es rs ↔ rs = es.filterMap Event.record? := by
  constructor
  · intro h
    induction h with
    | nil => rfl
    | record h _ ih => rw [List.filterMap_cons_some (Event.record?_eq_some_iff.2 h), ih]
    | other h _ ih =>
      have hNone := Option.eq_none_iff_forall_ne_some.2 fun r hr => h r (Event.record?_eq_some_iff.1 hr)
      rw [List.filterMap_cons_none hNone, ih]
  · rintro rfl
    induction es with
    | nil => exact .nil
    | cons e es ih =>
      cases hRecord : e.record? with
      | none =>
        rw [List.filterMap_cons_none hRecord]
        refine .other (fun r hr => ?_) ih
        rw [Event.record?_eq_some_iff.2 hr] at hRecord
        cases hRecord
      | some r =>
        rw [List.filterMap_cons_some hRecord]
        exact .record (Event.record?_eq_some_iff.1 hRecord) ih

-- ---------------------------------------------------------------------------
-- The log
-- ---------------------------------------------------------------------------

namespace Log

/-- A line of the log says what is in the record, and holds no line end of any kind. -/
def Says (line : List Char) (r : ConversionRecord) : Prop :=
  '\n' ∉ line ∧ '\r' ∉ line ∧ ConversionRecord.ofText? (String.ofList line) = some r

theorem says_line (r : ConversionRecord) : Says r.line.toList r := by
  refine ⟨fun hFeed => ?_, fun hReturn => ?_, ?_⟩
  · exact absurd (ConversionRecord.not_isControl_of_mem_line hFeed) (by decide)
  · exact absurd (ConversionRecord.not_isControl_of_mem_line hReturn) (by decide)
  · rw [String.ofList_toList]
    exact r.ofText?_line

theorem receive_of_not_writable {log : Log} (h : log.writable = false) (e : Event) :
    log.receive e = log := by
  rw [receive]
  cases e.record? with
  | none => rfl
  | some r =>
    dsimp only
    rw [h]
    rfl

/-- A log that cannot be written takes all events and stays as it is. -/
theorem receiveAll_of_not_writable {log : Log} (h : log.writable = false) (es : List Event) :
    log.receiveAll es = log := by
  induction es with
  | nil => rfl
  | cons e es ih =>
    show (log.receive e).receiveAll es = log
    rw [receive_of_not_writable h, ih]

/-- **After any events, a new log has one line for each that announces a conversion**, in their order,
and each line says the texts that were kept of its event. Events change nothing in a log that
cannot be written. -/
theorem lines_announced (es : List Event) :
    (∃ rs, Announced es rs ∧ List.Forall₂ Says (Text.lines (empty.receiveAll es).text.toList) rs) ∧
      ∀ lines, receiveAll ⟨false, lines⟩ es = ⟨false, lines⟩ := by
  constructor
  · refine ⟨_, announced_iff.2 rfl, ?_⟩
    rw [lines_text, List.forall₂_map_left_iff, List.forall₂_same]
    intro r _
    exact says_line r
  · intro lines
    exact receiveAll_of_not_writable rfl es

end Log

end Connectives

import Connectives.Log.Basic
import Connectives.Proofs.Log.Record
import Connectives.Proofs.Text.Lines

/-!
# Connectives — what stands in the log

Each event that announces a conversion adds the line of its record, and other events add nothing.
So the lines of a log are those of the records, in the order of the events.

* `Log.receive_eq`, `Log.receiveAll_eq` — one event, and a run of them.
* `Log.lines_text` — the lines of the file.
* `Event.record?_conversion` — the record of a conversion.
-/

namespace Connectives

namespace Log

variable {log : Log}

theorem receive_eq (hWritable : log.writable = true) (e : Event) :
    log.receive e = ⟨true, log.lines ++ (e.record?.map ConversionRecord.line).toList⟩ := by
  obtain ⟨writable, lines⟩ := log
  cases hWritable
  rw [receive]
  cases e.record? with
  | none => simp
  | some r => simp

/-- A run of events adds the lines of their records. -/
theorem receiveAll_eq (hWritable : log.writable = true) (es : List Event) :
    log.receiveAll es =
      ⟨true, log.lines ++ (es.filterMap Event.record?).map ConversionRecord.line⟩ := by
  induction es generalizing log with
  | nil =>
    obtain ⟨writable, lines⟩ := log
    cases hWritable
    simp [receiveAll]
  | cons e es ih =>
    show (log.receive e).receiveAll es = _
    rw [receive_eq hWritable e, ih rfl]
    cases hRecord : e.record? with
    | none => simp [hRecord]
    | some r => simp [hRecord]

/-- **The lines of the file are those of the records**, in the order of the events. -/
theorem lines_text (es : List Event) :
    Text.lines (empty.receiveAll es).text.toList =
      (es.filterMap Event.record?).map fun r => r.line.toList := by
  have hFeed : ∀ l ∈ (es.filterMap Event.record?).map ConversionRecord.line, '\n' ∉ l.toList := by
    intro l hl hFeed
    obtain ⟨r, -, rfl⟩ := List.mem_map.1 hl
    have hControl := ConversionRecord.not_isControl_of_mem_line hFeed
    exact absurd hControl (by decide)
  rw [receiveAll_eq rfl, text]
  show Text.lines (Text.unlines ([] ++ _)).toList = _
  rw [List.nil_append, Text.lines_unlines hFeed, List.map_map]
  rfl

end Log

/-- The record of a conversion. -/
def ConversionRecord.ofConversion (b : Basis) (input output : Formula) : ConversionRecord :=
  ⟨convertEvent, b.name, input.render .ascii, output.render .ascii⟩

theorem Event.record?_conversion (b : Basis) (input output : Formula) :
    (Event.conversion b input output).record? = some (.ofConversion b input output) := rfl

end Connectives

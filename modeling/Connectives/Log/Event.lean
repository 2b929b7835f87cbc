import Connectives.Basis.Basic
import Connectives.Log.Record

/-!
# Connectives — events

Whatever happens in the program is announced as an event with named fields. A listener keeps those
texts that it has a use for; a conversion is announced with all that a record of it needs.
-/

namespace Connectives

/-- The value of a field. -/
inductive FieldValue where
  /-- A text as it is. -/
  | text (s : String)
  /-- Any other value, formatted as a text. -/
  | formatted (s : String)
  deriving DecidableEq, Repr

/-- Something that has happened, with what is known of it. -/
structure Event where
  fields : List (String × FieldValue)
  deriving DecidableEq, Repr

/-- The text that the listener keeps of a field. A formatted value is kept for every field of
a record, a plain text only for the kind of event and the basis. -/
def FieldValue.kept? (name : String) : FieldValue → Option String
  | text s => if name ∈ [eventField, basisField] then some s else none
  | formatted s =>
    if name ∈ [eventField, basisField, inputField, outputField] then some s else none

/-- The kind of event by which a conversion is announced. -/
def convertEvent : String := "@convert"

namespace Event

/-- The text that is kept under a name; of several, the last one. -/
def recorded? (e : Event) (name : String) : Option String :=
  e.fields.reverse.findSome? fun (n, v) => if n = name then v.kept? name else none

/-- The record of a conversion that the event announces, if it does so completely. -/
def record? (e : Event) : Option ConversionRecord := do
  let event ← e.recorded? eventField
  let basis ← e.recorded? basisField
  let input ← e.recorded? inputField
  let output ← e.recorded? outputField
  if event = convertEvent then some ⟨event, basis, input, output⟩ else none

/-- The announcement that a formula was converted to a basis, with the result. -/
def conversion (b : Basis) (input output : Formula) : Event :=
  ⟨[(eventField, .text convertEvent), (basisField, .formatted b.name),
    (inputField, .formatted (input.render .ascii)),
    (outputField, .formatted (output.render .ascii))]⟩

end Event

end Connectives

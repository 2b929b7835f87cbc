import Connectives.Json.Value

/-!
# Connectives — records of conversions

The log of conversions has one JSON object per line. A `ConversionRecord` is what such a line says.

* `ConversionRecord.line` — the line of a record.
* `ConversionRecord.ofText?` — the record of a JSON text. The members of an object may come in any
  order and have others between them, and an array of the four texts will do as well.
-/

namespace Connectives

/-- The name of the field that tells what happened. -/
def eventField : String := "event"

/-- The name of the field for the basis. -/
def basisField : String := "basis"

/-- The name of the field for the formula that was converted. -/
def inputField : String := "input"

/-- The name of the field for the result. -/
def outputField : String := "output"

/-- What a conversion has done: the kind of the event, the name of the basis, and the formula
before and after. -/
structure ConversionRecord where
  event : String
  basis : String
  input : String
  output : String
  deriving DecidableEq, Repr

namespace ConversionRecord

/-- The fields by name, in the order in which they are written. -/
def fields (r : ConversionRecord) : List (String × String) :=
  [(eventField, r.event), (basisField, r.basis), (inputField, r.input), (outputField, r.output)]

/-- The record as a line, without a line end. -/
def line (r : ConversionRecord) : String :=
  let members := r.fields.map fun (name, text) => Json.literal name ++ ":" ++ Json.literal text
  "\x7b" ++ ",".intercalate members ++ "\x7d"

/-- The text of the only member with this name. -/
def member? (members : List (String × Json.Value)) (name : String) : Option String :=
  match members.filter (·.1 == name) with
  | [(_, .string text?)] => text?
  | _ => none

/-- The record that a JSON value denotes. Every name must denote a text, each field must be there
once, and other members do not matter. -/
def ofValue? : Json.Value → Option ConversionRecord
  | .array [.string event, .string basis, .string input, .string output] => do
    return ⟨← event, ← basis, ← input, ← output⟩
  | .object members => do
    let members ← members.mapM fun (name, v) => name.map (·, v)
    return ⟨← member? members eventField, ← member? members basisField,
      ← member? members inputField, ← member? members outputField⟩
  | _ => none

/-- The record that a JSON text denotes. -/
def ofText? (text : String) : Option ConversionRecord :=
  (Json.Value.ofText? text).bind ofValue?

end ConversionRecord

end Connectives

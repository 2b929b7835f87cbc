import Connectives.Json.Token

/-!
# Connectives — reading JSON

The reader is a machine that takes one token at a time, with a stack of the arrays and objects that
are still open. Members keep their order, and a name that comes twice is kept twice: what to make of
it is for whoever asks for the value.
-/

namespace Connectives.Json

/-- A JSON value. Strings and names of members may denote no text. -/
inductive Value where
  | null
  | bool (b : Bool)
  | number (text : String)
  | string (text? : Option String)
  | array (items : List Value)
  | object (members : List (Option String × Value))

/-- An array or object that is still open, with what it holds so far, the latest first. An object
waits for the value of a name. -/
inductive Frame where
  | array (items : List Value)
  | object (members : List (Option String × Value)) (name : Option String)

/-- The reader between two tokens. -/
inductive State where
  /-- A value must come. -/
  | value (stack : List Frame)
  /-- A value must come, or the end of the array that has just been opened. -/
  | firstItem (stack : List Frame)
  /-- A name must come, or the end of the object that has just been opened. -/
  | firstName (stack : List Frame)
  /-- The name of a further member must come. -/
  | name (members : List (Option String × Value)) (stack : List Frame)
  /-- A colon must come. -/
  | colon (members : List (Option String × Value)) (name : Option String) (stack : List Frame)
  /-- A value has been read. -/
  | done (value : Value) (stack : List Frame)

namespace State

/-- What a token does where a value must come. -/
def beginValue (stack : List Frame) : Token → Option State
  | .null => some (done .null stack)
  | .bool b => some (done (.bool b) stack)
  | .number text => some (done (.number text) stack)
  | .string text? => some (done (.string text?) stack)
  | .leftBracket => some (firstItem stack)
  | .leftBrace => some (firstName stack)
  | _ => none

/-- Takes a token. -/
def step : State → Token → Option State
  | value stack, t => beginValue stack t
  | firstItem stack, .rightBracket => some (done (.array []) stack)
  | firstItem stack, t => beginValue (.array [] :: stack) t
  | firstName stack, .rightBrace => some (done (.object []) stack)
  | firstName stack, .string n => some (colon [] n stack)
  | name members stack, .string n => some (colon members n stack)
  | colon members n stack, .colon => some (value (.object members n :: stack))
  | done v (.array items :: stack), .comma => some (value (.array (v :: items) :: stack))
  | done v (.array items :: stack), .rightBracket =>
    some (done (.array (v :: items).reverse) stack)
  | done v (.object members n :: stack), .comma => some (name ((n, v) :: members) stack)
  | done v (.object members n :: stack), .rightBrace =>
    some (done (.object ((n, v) :: members).reverse) stack)
  | _, _ => none

/-- The value, if the text may end here. -/
def finish : State → Option Value
  | done v [] => some v
  | _ => none

/-- Takes all tokens that are left. -/
def run : State → List Token → Option Value
  | s, [] => s.finish
  | s, t :: ts => (s.step t).bind (run · ts)

end State

/-- The value that a JSON text denotes; none if the text is not well formed. -/
def Value.ofText? (text : String) : Option Value :=
  (tokens? text.toList).bind (State.run (.value []))

end Connectives.Json

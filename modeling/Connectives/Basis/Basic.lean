import Connectives.Formula.Printer
import Connectives.Formula.Variables
import Connectives.Text.Blank

/-!
# Connectives — bases

A basis is a small set of connectives in which every truth function can be expressed. There are
five, each with a name by which a reader can ask for it.
-/

namespace Connectives

/-- A set of connectives that suffices for every formula. -/
inductive Basis where
  | notAndOr
  | notAnd
  | nand
  | impliesNot
  | impliesFalse
  deriving DecidableEq, Repr

namespace Basis

/-- Every basis. -/
def all : List Basis :=
  [notAndOr, notAnd, nand, impliesNot, impliesFalse]

/-- The name of a basis. -/
def name : Basis → String
  | notAndOr => "not-and-or"
  | notAnd => "not-and"
  | nand => "nand"
  | impliesNot => "implies-not"
  | impliesFalse => "implies-false"

instance : ToString Basis where
  toString := name

/-- The names of all bases, as they are listed in messages. -/
def names : String :=
  ", ".intercalate (all.map fun b => s!"`{b.name}`")

/-- The connectives of a basis. -/
def connectives : Basis → List Connective
  | notAndOr => [.not, .binary .and, .binary .or]
  | notAnd => [.not, .binary .and]
  | nand => [.binary .nand]
  | impliesNot => [.binary .implies, .not]
  | impliesFalse => [.binary .implies, .bottom]

/-- Whether a formula has only connectives of the basis. -/
def admits (b : Basis) (f : Formula) : Bool :=
  f.connectives.all (· ∈ b.connectives)

/-- The bases that admit a formula. -/
def admitting (f : Formula) : List Basis :=
  all.filter (·.admits f)

/-- The connectives of a basis in braces. -/
def connectivesText (b : Basis) : String :=
  "\x7b" ++ ", ".intercalate (b.connectives.map (Connective.text .symbols)) ++ "\x7d"

end Basis

/-- A text that names no basis, as it was given. -/
structure UnknownBasis where
  name : String
  deriving DecidableEq, Repr

namespace UnknownBasis

/-- The message for a reader. -/
def message (e : UnknownBasis) : String :=
  s!"unknown basis `{e.name}`; expecting one of {Basis.names}"

instance : ToString UnknownBasis where
  toString := message

end UnknownBasis

/-- The basis of a name. Case and the blanks around the name do not matter. Lower-casing ASCII
letters is enough: outside of ASCII only the Kelvin sign has an ASCII lower case, `k`, which is in
no name. -/
def Basis.ofName (text : String) : Except UnknownBasis Basis :=
  let wanted := (Text.trim text).map Char.toLower
  match Basis.all.find? (·.name == wanted) with
  | some b => .ok b
  | none => .error ⟨text⟩

end Connectives

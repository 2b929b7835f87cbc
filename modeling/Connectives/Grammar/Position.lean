/-!
# Connectives — positions in a text

Readers count lines and columns, the lexer counts bytes. A `LineIndex` keeps the offset at which
each line starts, and finds the position of a byte by a search among them. Lines end at a line
feed; lines and columns are counted from 1, and a column is one Unicode scalar.
-/

namespace Connectives

/-- A line and a column, both counted from 1. -/
structure Position where
  line : Nat
  column : Nat
  deriving DecidableEq, Repr

/-- The characters that are left after `n` bytes; none if no character ends there. -/
def dropBytes? : List Char → Nat → Option (List Char)
  | cs, 0 => some cs
  | [], _ + 1 => none
  | c :: cs, n + 1 => if c.utf8Size ≤ n + 1 then dropBytes? cs (n + 1 - c.utf8Size) else none

/-- The characters of the first `n` bytes; none if no character ends there. -/
def takeBytes? : List Char → Nat → Option (List Char)
  | _, 0 => some []
  | [], _ + 1 => none
  | c :: cs, n + 1 =>
    if c.utf8Size ≤ n + 1 then (takeBytes? cs (n + 1 - c.utf8Size)).map (c :: ·) else none

/-- The characters from one byte up to another; none if either falls inside a character or outside
the text, or if they are out of order. -/
def sliceBytes? (cs : List Char) (start stop : Nat) : Option (List Char) :=
  if start ≤ stop then (dropBytes? cs start).bind (takeBytes? · (stop - start)) else none

/-- A text with the offsets at which its lines start. -/
structure LineIndex where
  source : List Char
  starts : List Nat

namespace LineIndex

/-- The offset just after each line feed of a text that starts at the byte `offset`. -/
def startsAfter (offset : Nat) : List Char → List Nat
  | [] => []
  | c :: cs =>
    let next := offset + c.utf8Size
    if c = '\n' then next :: startsAfter next cs else startsAfter next cs

/-- The index of a text. -/
def ofSource (cs : List Char) : LineIndex :=
  ⟨cs, 0 :: startsAfter 0 cs⟩

/-- The position of a byte at which a character starts or the text ends: its line is the last one
that starts no later. -/
def position? (index : LineIndex) (offset : Nat) : Option Position := do
  let line := (index.starts.findIdx? (offset < ·)).getD index.starts.length
  let start ← index.starts[line - 1]?
  let before ← sliceBytes? index.source start offset
  return ⟨line, before.length + 1⟩

/-- The position of a byte. The lexer reports only bytes at which a character starts or ends, and
those have one. -/
def position (index : LineIndex) (offset : Nat) : Position :=
  (index.position? offset).getD ⟨1, 1⟩

end LineIndex

end Connectives

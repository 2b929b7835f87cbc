/-!
# Connectives — strings in JSON

How a string is written in JSON and read back. Only what must be escaped is: quotation marks,
backslashes and control characters, the latter by a letter if there is one and by a code unit
otherwise. Readers accept more: a slash may be escaped, and any character may be given as one or
two UTF-16 code units.

An escaped code unit may be half of a surrogate pair without the other half. Such a literal is well
formed but denotes no text, so reading comes in two steps: `readLiteral?` finds the end of
a literal, `textOf?` tells what text it denotes.
-/

namespace Connectives.Json

-- ---------------------------------------------------------------------------
-- Writing
-- ---------------------------------------------------------------------------

/-- The characters that are escaped by a letter, each with its letter. -/
def letterEscapes : List (Char × Char) :=
  [('"', '"'), ('\\', '\\'), ('\x08', 'b'), ('\x0c', 'f'), ('\n', 'n'), ('\r', 'r'), ('\t', 't')]

/-- A character as it is written in a literal. -/
def escape (c : Char) : List Char :=
  match letterEscapes.lookup c with
  | some letter => ['\\', letter]
  | none =>
    if c.toNat < 0x20 then
      ['\\', 'u', '0', '0', Nat.digitChar (c.toNat / 16), Nat.digitChar (c.toNat % 16)]
    else [c]

/-- A text as a literal. -/
def literal (s : String) : String :=
  String.ofList ('"' :: (s.toList.flatMap escape ++ ['"']))

-- ---------------------------------------------------------------------------
-- Reading
-- ---------------------------------------------------------------------------

/-- A part of a literal: a character, or a UTF-16 code unit that an escape gives. -/
inductive Piece where
  | char (c : Char)
  | unit (n : Nat)
  deriving DecidableEq, Repr

/-- The character that an escape letter stands for. -/
def unescape? (letter : Char) : Option Char :=
  if letter = '/' then some '/'
  else (letterEscapes.find? (·.2 == letter)).map (·.1)

/-- The value of a hexadecimal digit. -/
def hexValue? (c : Char) : Option Nat :=
  if '0' ≤ c ∧ c ≤ '9' then some (c.toNat - '0'.toNat)
  else if 'a' ≤ c ∧ c ≤ 'f' then some (c.toNat - 'a'.toNat + 10)
  else if 'A' ≤ c ∧ c ≤ 'F' then some (c.toNat - 'A'.toNat + 10)
  else none

/-- The code unit with these digits. -/
def codeUnit? (a b c d : Char) : Option Nat := do
  return (((← hexValue? a) * 16 + (← hexValue? b)) * 16 + (← hexValue? c)) * 16 + (← hexValue? d)

/-- A part of a literal in front of what comes after it. -/
def withPiece (p : Piece) (r : List Piece × List Char) : List Piece × List Char :=
  (p :: r.1, r.2)

/-- The parts of a literal, from behind its opening quotation mark, and what comes after it. -/
def readLiteral? : List Char → Option (List Piece × List Char)
  | [] => none
  | c :: cs =>
    if c = '"' then some ([], cs)
    else if c = '\\' then
      match cs with
      | 'u' :: d₁ :: d₂ :: d₃ :: d₄ :: rest =>
        match codeUnit? d₁ d₂ d₃ d₄ with
        | some n => withPiece (.unit n) <$> readLiteral? rest
        | none => none
      | letter :: rest =>
        match unescape? letter with
        | some c => withPiece (.char c) <$> readLiteral? rest
        | none => none
      | [] => none
    else if c.toNat < 0x20 then none
    else withPiece (.char c) <$> readLiteral? cs

/-- What comes after a literal is shorter than what it was read from. -/
theorem readLiteral?_progress {cs rest : List Char} {ps : List Piece}
    (h : readLiteral? cs = some (ps, rest)) : rest.length < cs.length := by
  fun_induction readLiteral? cs generalizing ps rest with
  | case2 cs =>
    cases h
    simp
  | case3 _ _ _ _ _ _ _ _ ih | case5 _ _ _ _ _ _ ih | case9 _ _ _ _ _ ih =>
    obtain ⟨⟨ps', rest'⟩, hr, heq⟩ := Option.map_eq_some_iff.1 h
    cases heq
    have := ih hr
    simp only [List.length_cons]
    omega
  | _ => cases h

/-- Whether a code unit is the first half of a surrogate pair. -/
def isLeadSurrogate (n : Nat) : Bool :=
  0xD800 ≤ n && n < 0xDC00

/-- Whether a code unit is the second half of a surrogate pair. -/
def isTrailSurrogate (n : Nat) : Bool :=
  0xDC00 ≤ n && n < 0xE000

/-- The characters that the parts of a literal denote; none if half of a surrogate pair stands
alone. -/
def textOf? : List Piece → Option (List Char)
  | [] => some []
  | .char c :: ps => (c :: ·) <$> textOf? ps
  | .unit n :: ps =>
    if isLeadSurrogate n then
      match ps with
      | .unit m :: ps =>
        if isTrailSurrogate m then
          (Char.ofNat (0x10000 + (n - 0xD800) * 0x400 + (m - 0xDC00)) :: ·) <$> textOf? ps
        else none
      | _ => none
    else if isTrailSurrogate n then none
    else (Char.ofNat n :: ·) <$> textOf? ps

end Connectives.Json

/-!
# Connectives — bytes as text

Decodes UTF-8 one byte at a time. Between two bytes the decoder has either finished a character or
it is inside of one; it then knows where the character began, how many bytes are still owed and
between which bounds the next one must lie. The bounds are narrower after some lead bytes, which
keeps out spellings that are longer than needed, surrogates, and code points past the last one.

Where the bytes are no text, the fault is told with the length of the longest beginning of
a character that stands there.
-/

namespace Connectives.Text

/-- Why bytes are no text. -/
inductive Utf8Error where
  /-- From the byte `index` on, `length` bytes begin a character that does not go on. -/
  | invalid (index length : Nat)
  /-- The bytes end inside the character that begins at the byte `index`. -/
  | incomplete (index : Nat)
  deriving DecidableEq, Repr

/-- The message for a reader. -/
def Utf8Error.message : Utf8Error → String
  | invalid index length => s!"invalid utf-8 sequence of {length} bytes from index {index}"
  | incomplete index => s!"incomplete utf-8 byte sequence from index {index}"

/-- A character of which only the first bytes have been read. -/
structure PartialChar where
  /-- Where it began. -/
  start : Nat
  /-- The bits read so far. -/
  code : Nat
  /-- How many bytes are owed after the next one. -/
  owed : Nat
  /-- The least value of the next byte. -/
  low : Nat
  /-- The greatest value of the next byte. -/
  high : Nat

/-- What a byte that is not ASCII begins, where it stands at `start`; most bytes begin nothing. -/
def PartialChar.ofLead? (start b : Nat) : Option PartialChar :=
  if b < 0xC2 then none
  else if b < 0xE0 then some ⟨start, b - 0xC0, 0, 0x80, 0xBF⟩
  else if b = 0xE0 then some ⟨start, 0, 1, 0xA0, 0xBF⟩
  else if b = 0xED then some ⟨start, 0xD, 1, 0x80, 0x9F⟩
  else if b < 0xF0 then some ⟨start, b - 0xE0, 1, 0x80, 0xBF⟩
  else if b = 0xF0 then some ⟨start, 0, 2, 0x90, 0xBF⟩
  else if b < 0xF4 then some ⟨start, b - 0xF0, 2, 0x80, 0xBF⟩
  else if b = 0xF4 then some ⟨start, 4, 2, 0x80, 0x8F⟩
  else none

/-- Decodes the bytes from `index` on, inside the character `pending` if there is one. -/
def decodeFrom (index : Nat) :
    Option PartialChar → List UInt8 → Except Utf8Error (List Char)
  | none, [] => .ok []
  | some p, [] => .error (.incomplete p.start)
  | none, b :: bs =>
    if b.toNat < 0x80 then (Char.ofNat b.toNat :: ·) <$> decodeFrom (index + 1) none bs
    else
      match PartialChar.ofLead? index b.toNat with
      | some p => decodeFrom (index + 1) (some p) bs
      | none => .error (.invalid index 1)
  | some p, b :: bs =>
    if p.low ≤ b.toNat ∧ b.toNat ≤ p.high then
      let code := p.code * 0x40 + (b.toNat - 0x80)
      match p.owed with
      | 0 => (Char.ofNat code :: ·) <$> decodeFrom (index + 1) none bs
      | owed + 1 => decodeFrom (index + 1) (some ⟨p.start, code, owed, 0x80, 0xBF⟩) bs
    else .error (.invalid p.start (index - p.start))

/-- The text that the bytes encode. -/
def decodeUtf8 (bytes : List UInt8) : Except Utf8Error String :=
  String.ofList <$> decodeFrom 0 none bytes

end Connectives.Text

import Connectives.Json.Literal

/-!
# Connectives — literals are read back

A text that is written as a literal is read back, with whatever comes after the literal left over.
Each character is a piece of its own: control characters without a letter become code units, which
are no halves of surrogate pairs. No control character stands in a literal as it is.

* `readLiteral?_literal` — the pieces of a literal.
* `textOf?_pieces` — the text that they denote.
* `not_isControl_of_mem_escape` — a literal stays on its line.
-/

namespace Connectives.Json

/-- Whether a character is a control character, of those that JSON escapes. -/
def isControl (c : Char) : Bool :=
  c.toNat < 0x20

-- ---------------------------------------------------------------------------
-- Escapes
-- ---------------------------------------------------------------------------

/-- The piece that a character is read back as. -/
def pieceOf (c : Char) : Piece :=
  match letterEscapes.lookup c with
  | some _ => .char c
  | none => if c.toNat < 0x20 then .unit c.toNat else .char c

theorem hexValue?_digitChar {n : Nat} (h : n < 16) : hexValue? (Nat.digitChar n) = some n := by
  have hAll : ∀ m ∈ List.range 16, hexValue? (Nat.digitChar m) = some m := by decide
  exact hAll n (List.mem_range.2 h)

/-- The two digits of a control character give its code unit. -/
theorem codeUnit?_digitChar {n : Nat} (h : n < 0x20) :
    codeUnit? '0' '0' (Nat.digitChar (n / 16)) (Nat.digitChar (n % 16)) = some n := by
  have hZero : hexValue? '0' = some 0 := by decide
  have hHigh : hexValue? (Nat.digitChar (n / 16)) = some (n / 16) := hexValue?_digitChar (by omega)
  have hLow : hexValue? (Nat.digitChar (n % 16)) = some (n % 16) := hexValue?_digitChar (by omega)
  have hValue : ((0 * 16 + 0) * 16 + n / 16) * 16 + n % 16 = n := by omega
  rw [codeUnit?, hZero, hHigh, hLow]
  show some _ = some n
  rw [hValue]

private theorem readLiteral?_letter (rest : List Char) :
    ∀ e ∈ letterEscapes, readLiteral? ('\\' :: e.2 :: rest) =
      withPiece (.char e.1) <$> readLiteral? rest := by
  intro e he
  simp only [letterEscapes, List.mem_cons, List.not_mem_nil, or_false] at he
  rcases he with rfl | rfl | rfl | rfl | rfl | rfl | rfl <;> rfl

private theorem not_isControl_letter : ∀ e ∈ letterEscapes, isControl e.2 = false := by
  decide

private theorem mem_letterEscapes_of_lookup {c letter : Char}
    (h : letterEscapes.lookup c = some letter) : (c, letter) ∈ letterEscapes := by
  obtain ⟨before, after, hTable, -⟩ := List.lookup_eq_some_iff.1 h
  rw [hTable]
  exact List.mem_append_right before List.mem_cons_self

/-- Quotation marks and backslashes have letters. -/
theorem ne_of_lookup_eq_none {c : Char} (h : letterEscapes.lookup c = none) :
    c ≠ '"' ∧ c ≠ '\\' := by
  constructor
  · rintro rfl
    cases h
  · rintro rfl
    cases h

-- ---------------------------------------------------------------------------
-- Reading a literal back
-- ---------------------------------------------------------------------------

/-- A character that is written is read back as its piece. -/
theorem readLiteral?_escape (c : Char) (rest : List Char) :
    readLiteral? (escape c ++ rest) = withPiece (pieceOf c) <$> readLiteral? rest := by
  rw [escape, pieceOf]
  cases hLookup : letterEscapes.lookup c with
  | some letter => exact readLiteral?_letter rest _ (mem_letterEscapes_of_lookup hLookup)
  | none =>
    obtain ⟨hQuote, hBackslash⟩ := ne_of_lookup_eq_none hLookup
    dsimp only
    split
    -- without a letter, a control character is written by its code unit and another as it is
    · next hControl =>
      have hUnit := codeUnit?_digitChar hControl
      simp [readLiteral?, hUnit]
    · next hPrintable =>
      rw [List.singleton_append, readLiteral?.eq_def]
      dsimp only
      rw [if_neg hQuote, if_neg hBackslash, if_neg hPrintable]

/-- **A literal is read back to its end.** -/
theorem readLiteral?_literal (cs rest : List Char) :
    readLiteral? (cs.flatMap escape ++ '"' :: rest) = some (cs.map pieceOf, rest) := by
  induction cs with
  | nil =>
    rw [List.flatMap_nil, List.nil_append, readLiteral?.eq_def]
    rfl
  | cons c cs ih =>
    rw [List.flatMap_cons, List.append_assoc, readLiteral?_escape, ih]
    rfl

/-- A control character is no half of a surrogate pair. -/
theorem textOf?_pieceOf (c : Char) (ps : List Piece) :
    textOf? (pieceOf c :: ps) = (c :: ·) <$> textOf? ps := by
  rw [pieceOf]
  cases letterEscapes.lookup c with
  | some letter => rfl
  | none =>
    dsimp only
    split
    · next hControl =>
      have hLead : isLeadSurrogate c.toNat = false := by
        simp only [isLeadSurrogate, Bool.and_eq_false_iff, decide_eq_false_iff_not]
        omega
      have hTrail : isTrailSurrogate c.toNat = false := by
        simp only [isTrailSurrogate, Bool.and_eq_false_iff, decide_eq_false_iff_not]
        omega
      rw [textOf?.eq_def]
      simp [hLead, hTrail]
    · rfl

/-- **The pieces denote the text that was written.** -/
theorem textOf?_pieces (cs : List Char) : textOf? (cs.map pieceOf) = some cs := by
  induction cs with
  | nil => rfl
  | cons c cs ih => rw [List.map_cons, textOf?_pieceOf, ih]; rfl

-- ---------------------------------------------------------------------------
-- Control characters
-- ---------------------------------------------------------------------------

private theorem not_isControl_digitChar {n : Nat} (h : n < 16) :
    isControl (Nat.digitChar n) = false := by
  have hAll : ∀ m ∈ List.range 16, isControl (Nat.digitChar m) = false := by decide
  exact hAll n (List.mem_range.2 h)

/-- No control character is written as it is. -/
theorem not_isControl_of_mem_escape {c d : Char} (h : d ∈ escape c) : isControl d = false := by
  rw [escape] at h
  cases hLookup : letterEscapes.lookup c with
  | some letter =>
    have hLetter := not_isControl_letter _ (mem_letterEscapes_of_lookup hLookup)
    rw [hLookup] at h
    simp only [List.mem_cons, List.not_mem_nil, or_false] at h
    rcases h with rfl | rfl
    · decide
    · exact hLetter
  | none =>
    rw [hLookup] at h
    dsimp only at h
    split at h
    · next hControl =>
      have hHigh : isControl (Nat.digitChar (c.toNat / 16)) = false :=
        not_isControl_digitChar (by omega)
      have hLow : isControl (Nat.digitChar (c.toNat % 16)) = false :=
        not_isControl_digitChar (by omega)
      simp only [List.mem_cons, List.not_mem_nil, or_false] at h
      rcases h with rfl | rfl | rfl | rfl | rfl | rfl
      · decide
      · decide
      · decide
      · decide
      · exact hHigh
      · exact hLow
    · next hPrintable =>
      rw [List.mem_singleton.1 h, isControl, decide_eq_false_iff_not]
      exact hPrintable

/-- **No control character stands in a literal.** -/
theorem not_isControl_of_mem_literal {s : String} {d : Char} (h : d ∈ (literal s).toList) :
    isControl d = false := by
  rw [literal, String.toList_ofList, List.mem_cons, List.mem_append, List.mem_singleton,
    List.mem_flatMap] at h
  rcases h with rfl | ⟨c, -, hd⟩ | rfl
  · decide
  · exact not_isControl_of_mem_escape hd
  · decide

end Connectives.Json
